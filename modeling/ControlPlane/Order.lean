/-!
# Ordered lists

Sets and maps with ordered keys are ascending lists without repeated keys. Inserting into a set
keeps the element already present; inserting into a map replaces the value and keeps the key
already present.
-/

namespace ControlPlane
namespace Ordered

def insert {α : Type} (cmp : α → α → Ordering) (x : α) : List α → List α
  | [] => [x]
  | y :: ys =>
    match cmp x y with
    | .lt => x :: y :: ys
    | .eq => y :: ys
    | .gt => y :: insert cmp x ys

def setOf {α : Type} (cmp : α → α → Ordering) (xs : List α) : List α :=
  xs.foldl (fun acc x => insert cmp x acc) []

def put {κ α : Type} (cmp : κ → κ → Ordering) (k : κ) (v : α) : List (κ × α) → List (κ × α)
  | [] => [(k, v)]
  | (k', v') :: rest =>
    match cmp k k' with
    | .lt => (k, v) :: (k', v') :: rest
    | .eq => (k', v) :: rest
    | .gt => (k', v') :: put cmp k v rest

def find? {κ α : Type} (cmp : κ → κ → Ordering) (k : κ) : List (κ × α) → Option α
  | [] => none
  | (k', v) :: rest => if cmp k k' == .eq then some v else find? cmp k rest

def update {κ α : Type} (cmp : κ → κ → Ordering) (k : κ) (d : α) (f : α → α) (m : List (κ × α)) :
    List (κ × α) :=
  put cmp k (f ((find? cmp k m).getD d)) m

def mem {κ α : Type} (cmp : κ → κ → Ordering) (k : κ) (m : List (κ × α)) : Bool :=
  (find? cmp k m).isSome

def contains {α : Type} (cmp : α → α → Ordering) (x : α) (xs : List α) : Bool :=
  xs.any fun y => cmp x y == .eq

end Ordered
end ControlPlane
