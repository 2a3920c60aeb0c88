import ControlPlane.Network.Address

/-!
# Routing policies

A vendor-independent routing policy language. A policy is a list of statements; statements
match routes with boolean expressions and change route attributes. Policies may call each other,
as expressions (`callExpr`) or as the policy of last resort (`setDefaultPolicy`).
-/

namespace ControlPlane

/-- A change of an integer attribute. -/
inductive LongExpr where
  | literal (v : Int)
  | increment (v : Int)
  | decrement (v : Int)
  deriving DecidableEq, Repr, Inhabited

/-- A set of prefixes matched by a policy. -/
inductive PrefixSetExpr where
  | explicit (ranges : List PrefixRange)
  | named (name : String)
  deriving DecidableEq, Repr, Inhabited

/-- A set of communities matched or changed by a policy. -/
inductive CommunitySetExpr where
  | literal (communities : List Community)
  | named (name : String)
  deriving DecidableEq, Repr, Inhabited

/-- AS numbers to prepend to the AS path. -/
inductive AsPathListExpr where
  | multiplied (asNumber count : Nat)
  | literal (path : List Nat)
  deriving DecidableEq, Repr, Inhabited

def AsPathListExpr.prependLength : AsPathListExpr → Nat
  | .multiplied _ count => count
  | .literal path => path.length

/-- A boolean expression of a policy. -/
inductive BooleanExpr where
  | always
  | never
  | callExprContext
  | callStatementContext
  | matchIpv4
  | matchIpv6
  | conjunction (xs : List BooleanExpr)
  | disjunction (xs : List BooleanExpr)
  | conjunctionChain (xs : List BooleanExpr)
  | firstMatchChain (xs : List BooleanExpr)
  | negation (x : BooleanExpr)
  | matchProtocol (protocols : List RoutingProtocol)
  | matchPrefixSet (s : PrefixSetExpr)
  | matchPrefix6Set
  | callExpr (policy : String)
  | withEnvironment (x : BooleanExpr)
  | matchCommunitySet (s : CommunitySetExpr)
  | matchAsPath (regex : String)
  | matchSrcInterface (ifaces : List String)
  | permittedByAcl (acl : String)
  | matchTag (tag : Int)
  deriving Repr, Inhabited

/-- A statement of a policy. -/
inductive Statement where
  | exitAccept
  | exitReject
  | returnTrue
  | returnFalse
  | returnLocalDefaultAction
  | fallThrough
  | returnFromPolicy
  | setDefaultActionAccept
  | setDefaultActionReject
  | setLocalDefaultActionAccept
  | setLocalDefaultActionReject
  | suppress
  | unsuppress
  | removePrivateAs
  | ite (guard : BooleanExpr) (thenBranch elseBranch : List Statement)
  | setDefaultPolicy (policy : String)
  | setMetric (e : LongExpr)
  | setOspfMetricType (t : OspfMetricType)
  | setLocalPreference (e : LongExpr)
  | addCommunity (s : CommunitySetExpr)
  | setCommunity (s : CommunitySetExpr)
  | deleteCommunity (s : CommunitySetExpr)
  | prependAsPath (e : AsPathListExpr)
  | setOrigin (origin : String)
  | setNextHop (hop : String)
  | setTag (tag : Int)
  | setWeight (weight : Int)
  deriving Repr, Inhabited

/-- A named policy. -/
structure RoutingPolicy where
  name : String
  statements : List Statement
  deriving Repr, Inhabited

/-- A string literal in the debugging notation: quoted, with quotes, backslashes and control
characters escaped. -/
def debugQuote (s : String) : String :=
  let body := s.foldl (fun acc c =>
    if c = '"' then acc ++ "\\\""
    else if c = '\\' then acc ++ "\\\\"
    else if c = '\n' then acc ++ "\\n"
    else if c = '\r' then acc ++ "\\r"
    else if c = '\t' then acc ++ "\\t"
    else if c = '\x00' then acc ++ "\\0"
    else if c.toNat < 32 ∨ c.toNat = 127 then
      acc ++ "\\u\x7b" ++ String.ofList (Nat.toDigits 16 c.toNat) ++ "\x7d"
    else acc.push c) ""
  "\"" ++ body ++ "\""

/-- Name of a boolean expression's construct, with its arguments where the construct is a leaf
that the encoding rejects. -/
def BooleanExpr.construct : BooleanExpr → String
  | .matchSrcInterface xs => "MatchSrcInterface([" ++ ", ".intercalate (xs.map debugQuote) ++ "])"
  | .permittedByAcl n => "PermittedByAcl(" ++ debugQuote n ++ ")"
  | .matchTag t => "MatchTag(" ++ toString t ++ ")"
  | .matchAsPath r => "MatchAsPath(" ++ debugQuote r ++ ")"
  | .callExpr n => "CallExpr(" ++ debugQuote n ++ ")"
  | .always => "True"
  | .never => "False"
  | .callExprContext => "CallExprContext"
  | .callStatementContext => "CallStatementContext"
  | .matchIpv4 => "MatchIpv4"
  | .matchIpv6 => "MatchIpv6"
  | .conjunction _ => "Conjunction"
  | .disjunction _ => "Disjunction"
  | .conjunctionChain _ => "ConjunctionChain"
  | .firstMatchChain _ => "FirstMatchChain"
  | .negation _ => "Not"
  | .matchProtocol _ => "MatchProtocol"
  | .matchPrefixSet _ => "MatchPrefixSet"
  | .matchPrefix6Set => "MatchPrefix6Set"
  | .withEnvironment _ => "WithEnvironment"
  | .matchCommunitySet _ => "MatchCommunitySet"

/-- Name of a statement's construct, with its arguments where the construct is a leaf that the
encoding rejects. -/
def Statement.construct : Statement → String
  | .setTag t => "SetTag(" ++ toString t ++ ")"
  | .setWeight w => "SetWeight(" ++ toString w ++ ")"
  | .setOrigin o => "SetOrigin(" ++ debugQuote o ++ ")"
  | .setNextHop h => "SetNextHop(" ++ debugQuote h ++ ")"
  | .setDefaultPolicy p => "SetDefaultPolicy(" ++ debugQuote p ++ ")"
  | .exitAccept => "ExitAccept"
  | .exitReject => "ExitReject"
  | .returnTrue => "ReturnTrue"
  | .returnFalse => "ReturnFalse"
  | .returnLocalDefaultAction => "ReturnLocalDefaultAction"
  | .fallThrough => "FallThrough"
  | .returnFromPolicy => "Return"
  | .setDefaultActionAccept => "SetDefaultActionAccept"
  | .setDefaultActionReject => "SetDefaultActionReject"
  | .setLocalDefaultActionAccept => "SetLocalDefaultActionAccept"
  | .setLocalDefaultActionReject => "SetLocalDefaultActionReject"
  | .suppress => "Suppress"
  | .unsuppress => "Unsuppress"
  | .removePrivateAs => "RemovePrivateAs"
  | .ite .. => "If"
  | .setMetric _ => "SetMetric"
  | .setOspfMetricType _ => "SetOspfMetricType"
  | .setLocalPreference _ => "SetLocalPreference"
  | .addCommunity _ => "AddCommunity"
  | .setCommunity _ => "SetCommunity"
  | .deleteCommunity _ => "DeleteCommunity"
  | .prependAsPath _ => "PrependAsPath"

end ControlPlane
