import ControlPlane.Text.Category
import ControlPlane.Text.Script
import ControlPlane.Text.BinaryProperty
import ControlPlane.Text.Age
import ControlPlane.Text.Segment
import ControlPlane.Text.PropertyName

/-!
# Unicode classes by name

A class `\p…` of a pattern names a set of characters: a binary property, a general category or
group of them, or a script; or, with a value, a general category, script, script extension, age
or break property value. Names and values are compared in loose form (`Property.loose`). A bare
name is a property first, unless it is `cf`, `sc` or `lc`, which name the categories `Cf`
(format), `Sc` (currency symbol) and `LC` (cased letter) rather than the case folding, script
and lower case mapping properties; then a general category, then a script. A name of a property
that has no set of its own, or of a value a table does not hold, names no class.

The word, digit and space classes are the word characters (alphabetic, marks, decimal numbers,
connector punctuation and the join controls), the decimal numbers and the white space.
-/

namespace ControlPlane
namespace Property

/-- Loose form of a name: without a leading `is` in any case, without spaces, underscores and
hyphens, in lower case, and without characters past ASCII; but `isc` stays `isc`. -/
def loose (s : String) : String :=
  let cs := s.toList
  let (startsIs, body) := match cs with
    | a :: b :: rest => if (a == 'i' || a == 'I') && (b == 's' || b == 'S') then (true, rest) else (false, cs)
    | _ => (false, cs)
  let kept := body.filterMap fun c =>
    if c == ' ' || c == '_' || c == '-' || c.toNat ≥ 128 then none else some c.toLower
  if startsIs && kept == ['c'] then "isc" else String.ofList kept

def nonEmpty (s : CharSet) : Option CharSet := if s.ranges.isEmpty then none else some s

/-- The general category or group named by a value in loose form; `any`, `assigned` and `ascii`
name all characters, the assigned ones and the ASCII ones. -/
def category? (v : String) : Option CharSet :=
  if v = "any" then some CharSet.all
  else if v = "assigned" then some (Category.set "Cn").complement
  else if v = "ascii" then some ⟨[(0, 127)]⟩
  else (PropertyName.categories.lookup v).map Category.set

/-- A script that has a set of its own: every script but `Unknown`, the value of the code points
that no script lists. -/
def listedScript? (v : String) : Option String :=
  (PropertyName.scripts.lookup v).bind fun name => if name = "Unknown" then none else some name

def script? (v : String) : Option CharSet :=
  (listedScript? v).bind fun name => nonEmpty (Script.set name)

def named? (name : String) : Option CharSet :=
  let n := loose name
  let property := if n = "cf" ∨ n = "sc" ∨ n = "lc" then none else PropertyName.properties.lookup n
  match property with
  | some canonical => BinaryProperty.set? canonical
  | none => (category? n).orElse fun _ => script? n

def byValue? (name value : String) : Option CharSet :=
  let v := loose value
  match PropertyName.properties.lookup (loose name) with
  | some "General_Category" => category? v
  | some "Script" => script? v
  | some "Script_Extensions" => (listedScript? v).bind fun s => nonEmpty (Script.extensionSet s)
  | some "Age" => (PropertyName.ages.lookup v).bind Age.upTo?
  | some "Grapheme_Cluster_Break" => (PropertyName.graphemeBreaks.lookup v).bind Segment.grapheme.set?
  | some "Word_Break" => (PropertyName.wordBreaks.lookup v).bind Segment.word.set?
  | some "Sentence_Break" => (PropertyName.sentenceBreaks.lookup v).bind Segment.sentence.set?
  | _ => none

def alphabetic : CharSet := (BinaryProperty.set? "Alphabetic").getD CharSet.empty

def numeric : CharSet := Category.set "N"

def digit : CharSet := Category.set "Nd"

def space : CharSet := (BinaryProperty.set? "White_Space").getD CharSet.empty

/-- Word characters: alphabetic characters, marks, decimal numbers, connector punctuation and the
join controls. -/
def word : CharSet :=
  (((alphabetic.union (Category.set "M")).union digit).union
    (Category.set "Pc")).union ((BinaryProperty.set? "Join_Control").getD CharSet.empty)

end Property
end ControlPlane
