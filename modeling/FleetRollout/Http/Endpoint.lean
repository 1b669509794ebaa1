import FleetRollout.Http.Url

/-! The address of a resource: segments and query pairs put behind a base URL. Every segment is
escaped, so it names one step of the path; only `.` and `..` are passed over. -/
namespace FleetRollout.Http.Url

open Text

def pairChars (pair : String × String) : List Char :=
  pairText pair.1 ++ '=' :: pairText pair.2

def addPairs (query : Option (List Char)) (pairs : List (String × String)) : Option (List Char) :=
  if pairs.isEmpty then query
  else
    let added := ['&'].intercalate (pairs.map pairChars)
    match query with
    | some (c :: cs) => some (c :: cs ++ '&' :: added)
    | _ => some added

def endpoint (base : Url) (segments : List String) (query : List (String × String)) : Url :=
  { base with
    path := base.path.add base.kind segments
    query := addPairs base.query query }

end FleetRollout.Http.Url
