import ControlPlane.Network.Walk
import ControlPlane.Text.Regex

/-!
# Community variables

The communities that policies match or set are tracked one by one. A literal community is an
`exact` variable. A regex is a `regex` variable, together with an `other` variable that stands for
the communities matching the regex that the network never names. A regex depends on the exact
variables whose text it matches and on its own `other` variable.

Sets of variables are ascending lists ordered by kind, then value.
-/

namespace ControlPlane

/-- Kind of a community variable. -/
inductive CommunityVarKind where
  | exact
  | regex
  | other
  deriving DecidableEq, Repr, Inhabited, Ord

def CommunityVarKind.name : CommunityVarKind → String
  | .exact => "Exact"
  | .regex => "Regex"
  | .other => "Other"

/-- A community variable: its kind and its text (a community or a regex). -/
structure CommunityVar where
  kind : CommunityVarKind
  value : String
  deriving DecidableEq, Repr, Inhabited, Ord

namespace CommunityVar

instance : LT CommunityVar := ltOfOrd

def exact (c : Community) : CommunityVar := ⟨.exact, c.text⟩

def regex (r : String) : CommunityVar := ⟨.regex, r⟩

def other (r : String) : CommunityVar := ⟨.other, r⟩

def isRegex (c : CommunityVar) : Bool := c.kind == .regex

def suffix (c : CommunityVar) : String :=
  match c.kind with
  | .other => c.value ++ "_OTHER"
  | _ => c.value

def text (c : CommunityVar) : String :=
  match c.kind with
  | .other => "OTHER(" ++ c.value ++ ")"
  | _ => c.value

def insertSorted (c : CommunityVar) : List CommunityVar → List CommunityVar
  | [] => [c]
  | d :: rest =>
    match compare c d with
    | .lt => c :: d :: rest
    | .eq => d :: rest
    | .gt => d :: insertSorted c rest

def setOf (cs : List CommunityVar) : List CommunityVar := cs.foldl (fun acc c => insertSorted c acc) []

end CommunityVar

def CommunityMatch.toVar : CommunityMatch → CommunityVar
  | .exact c => CommunityVar.exact c
  | .regex r => CommunityVar.regex r

/-- The variables of a community set, as an ascending list. A named set must be a community list
of the configuration. -/
def collectCommunityVars (c : Configuration) : CommunitySetExpr → Except NetworkError (List CommunityVar)
  | .literal cs => .ok (CommunityVar.setOf (cs.map CommunityVar.exact))
  | .named name =>
    match c.communityLists.get? name with
    | some l => .ok (CommunityVar.setOf (l.lines.map (·.matcher.toVar)))
    | none => .error (.communityListNotFound c.hostname name)

def PolicyNode.communitySet? : PolicyNode → Option CommunitySetExpr
  | .stmt (.addCommunity e) | .stmt (.setCommunity e) | .stmt (.deleteCommunity e)
  | .expr (.matchCommunitySet e) => some e
  | _ => none

def findCommunities (c : Configuration) : Except NetworkError (List CommunityVar) := do
  let sets := c.routingPolicies.values.flatMap fun p =>
    (walkStatements c p.statements).filterMap PolicyNode.communitySet?
  let vars ← sets.mapM (collectCommunityVars c)
  pure (CommunityVar.setOf vars.flatten)

def communityDependencies (all : List CommunityVar) :
    Except NetworkError (List (CommunityVar × List CommunityVar)) :=
  (all.filter CommunityVar.isRegex).mapM fun c1 =>
    match Regex.compile c1.value with
    | .error msg => .error (.invalidRegex c1.value msg)
    | .ok re =>
      .ok (c1, all.filter fun c2 =>
        match c2.kind with
        | .exact => re.search c2.value
        | .other => c2.value == c1.value
        | .regex => false)

end ControlPlane
