import Nurture.Text.Search

/-!
  Routes

  What the server can be asked for. A route is a method and a path, in which one
  segment may stand for an identifier. `Route.lookup` finds the first route that
  a request matches; of a path that no route has, it tells whether another
  spelling of its end or another method would do. A path may end in a line end.
-/

namespace Nurture.Api

/-- What the server can be asked for. -/
inductive Endpoint where
  /-- A page about the server. -/
  | page
  | health
  | listFunnels
  | saveFunnel
  | createStockFunnel
  | getFunnel
  | deleteFunnel
  | listTemplates
  | saveTemplate
  | listExecutions
  | processExecutions
  | getExecution
  | trigger
  | broadcast
  | listLeads
  | subscribe
  | getLead
  | addTag
  deriving DecidableEq, Repr

/-- Whether the endpoint is open to everyone. -/
def Endpoint.isOpen (e : Endpoint) : Bool := e == .page || e == .health

/-- A part of a route's path. -/
inductive Segment where
  | word (text : String)
  | identifier
  deriving DecidableEq, Repr

/-- A method and a path, what they ask for, and whether a key is needed. -/
structure Route where
  method : String
  path : List Segment
  endpoint : Endpoint
  guarded : Bool
  deriving DecidableEq, Repr

namespace Route

/-- An open route. -/
def free (method : String) (path : List Segment) (endpoint : Endpoint) : Route :=
  ⟨method, path, endpoint, false⟩

/-- A guarded route of the first version of the interface. -/
def admin (method : String) (path : List Segment) (endpoint : Endpoint) : Route :=
  ⟨method, .word "api" :: .word "v1" :: path, endpoint, true⟩

/-- The pages about the server. -/
def pages : List (List Segment) :=
  [[.word "openapi.json"], [.word "docs"], [.word "docs", .word "oauth2-redirect"],
   [.word "redoc"]]

/-- The routes, in the order in which they are tried. -/
def table : List Route :=
  pages.map (free "GET" · .page) ++ pages.map (free "HEAD" · .page) ++
  [ free "GET" [.word "health"] .health,
    admin "GET" [.word "funnels"] .listFunnels,
    admin "POST" [.word "funnels"] .saveFunnel,
    admin "POST" [.word "funnels", .word "defaults", .word "post-update"] .createStockFunnel,
    admin "GET" [.word "funnels", .identifier] .getFunnel,
    admin "DELETE" [.word "funnels", .identifier] .deleteFunnel,
    admin "GET" [.word "whatsapp-templates"] .listTemplates,
    admin "POST" [.word "whatsapp-templates"] .saveTemplate,
    admin "GET" [.word "executions"] .listExecutions,
    admin "POST" [.word "executions", .word "process"] .processExecutions,
    admin "GET" [.word "executions", .identifier] .getExecution,
    admin "POST" [.word "triggers"] .trigger,
    admin "POST" [.word "triggers", .word "broadcast"] .broadcast,
    admin "GET" [.word "leads"] .listLeads,
    admin "POST" [.word "leads"] .subscribe,
    admin "GET" [.word "leads", .identifier] .getLead,
    admin "POST" [.word "leads", .identifier, .word "tags"] .addTag ]

/-- The segments of a path that starts with a slash. -/
def segments? (path : String) : Option (List String) :=
  match path.toList with
  | '/' :: rest => some ((Text.splitAt '/' rest).map String.ofList)
  | _ => none

/-- The identifier that a path gives where a route has one, if the path is of the
route; a path without one gives the empty text. -/
def matchPath : List Segment → List String → Option String
  | [], [] => some ""
  | [.word w], [s] => if s = w || s = w ++ "\n" then some "" else none
  | .word w :: route, s :: path => if s = w then matchPath route path else none
  | .identifier :: route, s :: path =>
    if s = "" then none else (matchPath route path).map fun _ => s
  | _, _ => none

/-- The identifier in the path, if the path is of the route. -/
def identifier? (r : Route) (path : String) : Option String :=
  (segments? path).bind (matchPath r.path)

/-- What a method and a path lead to. -/
inductive Destination where
  /-- A route, with the identifier in the path. -/
  | found (route : Route) (identifier : String)
  /-- The path has other methods. -/
  | otherMethod
  /-- The path would do with, or without, a slash at its end. -/
  | otherEnd
  | nowhere
  deriving DecidableEq, Repr

/-- The path without the slashes at its end, or with one if it has none. -/
def toggleEnd (path : String) : String :=
  match path.toList.reverse with
  | '/' :: rest => String.ofList (rest.dropWhile (· = '/')).reverse
  | _ => path ++ "/"

/-- Finds where a method and a path lead. -/
def lookup (method path : String) : Destination :=
  let fits := table.filterMap fun r => (r.identifier? path).map fun id => (r, id)
  match fits.find? fun (r, _) => r.method == method with
  | some (r, id) => .found r id
  | none =>
    if !fits.isEmpty then .otherMethod
    else if path ≠ "/" && table.any fun r => (r.identifier? (toggleEnd path)).isSome then .otherEnd
    else .nowhere

theorem mem_table_of_lookup {method path : String} {r : Route} {id : String}
    (h : lookup method path = .found r id) : r ∈ table := by
  unfold lookup at h
  simp only at h
  split at h
  · rename_i heq
    cases h
    have hmem := List.mem_of_find?_eq_some heq
    obtain ⟨a, ha, hmap⟩ := List.mem_filterMap.mp hmem
    cases hid : a.identifier? path with
    | none => simp [hid] at hmap
    | some v =>
      rw [hid] at hmap
      cases hmap
      exact ha
  · split at h
    · cases h
    · split at h <;> cases h

/-- Every route needs a key but those of the pages and of the health check. -/
theorem guarded_of_mem_table : ∀ r ∈ table, r.guarded = !r.endpoint.isOpen := by
  decide

end Route

end Nurture.Api
