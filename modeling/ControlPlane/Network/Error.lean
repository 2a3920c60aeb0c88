/-!
# Errors of the network model

Errors raised while reading addresses and building the network graph. Each error knows the name
of its kind and its message.
-/

namespace ControlPlane

/-- Errors of the network model. -/
inductive NetworkError where
  | routerNotFound (router : String)
  | interfaceNotFound (router iface : String)
  | policyNotFound (router name : String)
  | aclNotFound (router name : String)
  | communityListNotFound (router name : String)
  | routeFilterListNotFound (router name : String)
  | invalidAddress (text : String)
  | invalidPrefix (text : String)
  | invalidCommunity (text : String)
  | invalidRegex (regex reason : String)
  | inconsistentTopology (what : String)
  | duplicateRouter (router : String)
  deriving DecidableEq, Repr, Inhabited

namespace NetworkError

def kind : NetworkError → String
  | .routerNotFound _ => "RouterNotFound"
  | .interfaceNotFound .. => "InterfaceNotFound"
  | .policyNotFound .. => "PolicyNotFound"
  | .aclNotFound .. => "AclNotFound"
  | .communityListNotFound .. => "CommunityListNotFound"
  | .routeFilterListNotFound .. => "RouteFilterListNotFound"
  | .invalidAddress _ => "InvalidAddress"
  | .invalidPrefix _ => "InvalidPrefix"
  | .invalidCommunity _ => "InvalidCommunity"
  | .invalidRegex .. => "InvalidRegex"
  | .inconsistentTopology _ => "InconsistentTopology"
  | .duplicateRouter _ => "DuplicateRouter"

def message : NetworkError → String
  | .routerNotFound r => "Router does not exist: " ++ r
  | .interfaceNotFound r i => "Interface " ++ i ++ " does not exist on router " ++ r
  | .policyNotFound r n => "Routing policy " ++ n ++ " is not defined on router " ++ r
  | .aclNotFound r n => "Access list " ++ n ++ " is not defined on router " ++ r
  | .communityListNotFound r n => "Community list " ++ n ++ " is not defined on router " ++ r
  | .routeFilterListNotFound r n => "Route filter list " ++ n ++ " is not defined on router " ++ r
  | .invalidAddress s => "Invalid IP address: " ++ s
  | .invalidPrefix s => "Invalid prefix: " ++ s
  | .invalidCommunity s => "Invalid community: " ++ s
  | .invalidRegex r m => "Invalid community regex " ++ r ++ ": " ++ m
  | .inconsistentTopology s => "Inconsistent topology: " ++ s
  | .duplicateRouter r => "Router is defined multiple times: " ++ r

end NetworkError
end ControlPlane
