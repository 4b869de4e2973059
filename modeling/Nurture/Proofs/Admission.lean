import Nurture.Api.Server
import Nurture.Proofs.Driving

/-!
  Admission

  What becomes of a request to a route of the interface that does not carry the
  key which the environment asks for. The key is asked for between reading the
  body and checking it, so such a request is turned away with a response that is
  known before anything was looked up: it is the same in every world, whose
  tables and attempts stay what they are. A key that cannot be encoded is compared
  with none; the request that would be told of a wrong key ends with an internal
  error then.
-/

namespace Nurture

variable {env : Environment} {key given : String} {carried : Option String}
  {request : Api.Request} {r : Api.Route} {id : String}

/-- The key that the environment asks for: that of the first variable or, if it is unset or
empty, that of the second one. -/
def Environment.AsksFor (env : Environment) (key : String) : Prop :=
  key ≠ "" ∧ (env.get? "FUNNELS_API_KEY" = some key ∨
    (env.get? "FUNNELS_API_KEY" = none ∨ env.get? "FUNNELS_API_KEY" = some "") ∧
      env.get? "API_KEY" = some key)

theorem Environment.AsksFor.configuredKey_eq (h : env.AsksFor key) :
    Api.configuredKey env = some key := by
  obtain ⟨hne, hfirst | ⟨hfirst | hfirst, hsecond⟩⟩ := h
  · simp [Api.configuredKey, hfirst, hne]
  · simp [Api.configuredKey, hfirst, hsecond]
  · simp [Api.configuredKey, hfirst, hsecond, Option.filter]

namespace Api

theorem Route.guarded_of_isPrefix :
    ∀ r ∈ Route.table, [.word "api", .word "v1"] <+: r.path → r.guarded = true := by
  decide

/-! ## Asking for the key -/

theorem filter_of_ne (hkey : key ≠ "") : (some key).filter (· ≠ "") = some key := by
  simp [hkey]

theorem carriedKey_of_blank (hkey : key ≠ "") (h : carried = none ∨ carried = some "") :
    carriedKey (some key) (.ofOption carried) = .ok none := by
  rw [carriedKey, filter_of_ne hkey]
  rcases h with rfl | rfl <;> simp [Json.ofOption, Json.isGiven]

theorem carriedKey_of_given (hkey : key ≠ "") (hgiven : given ≠ "") :
    carriedKey (some key) (.ofOption (some given)) =
      (do let s ← encoded given
          let _ ← encoded key
          return some s) := by
  rw [carriedKey, filter_of_ne hkey]
  simp [hgiven, Json.ofOption, Json.isGiven]

theorem encoded_of_isWhole (h : Text.isWhole key = true) : encoded key = .ok key := by
  rw [encoded, Text.encodingFault?_eq_none_iff.mpr h]

theorem encoded_of_not_isWhole (h : ¬ Text.isWhole key = true) :
    ∃ failure, encoded key = .error failure := by
  cases hfault : Text.encodingFault? key with
  | none => exact absurd (Text.encodingFault?_eq_none_iff.mp hfault) h
  | some fault => exact ⟨_, by rw [encoded, hfault]⟩

theorem grant_none (hkey : key ≠ "") : grant (some key) none = .error .missingKey := by
  rw [grant, filter_of_ne hkey]
  rfl

theorem grant_of_ne (hkey : key ≠ "") (hgiven : given ≠ "") (hother : given ≠ key) :
    grant (some key) (some given) = .error .wrongKey := by
  rw [grant, filter_of_ne hkey, filter_of_ne hgiven]
  exact if_neg hother

/-! ## Strangers -/

/-- How a request to the endpoint is turned away which carries another key than the one asked
for. -/
inductive TurnsAway (key : String) (request : Request) (e : Endpoint) : Response → Prop
  /-- A body that cannot be read is told of before the key is asked for. -/
  | unread (fault : Json.ReadFault) (hbody : request.readBody e = .error fault) :
    TurnsAway key request e (bodyFault fault)
  /-- The key is missing. -/
  | missing (body : Option Json) (hbody : request.readBody e = .ok body)
    (hblank : request.header? "X-API-Key" = none ∨ request.header? "X-API-Key" = some "") :
    TurnsAway key request e (.refusal 401 "Missing X-API-Key header")
  /-- The key is wrong. -/
  | wrong (body : Option Json) (hbody : request.readBody e = .ok body) (given : String)
    (hgiven : request.header? "X-API-Key" = some given) (hne : given ≠ "")
    (hwhole : Text.isWhole given = true ∧ Text.isWhole key = true) :
    TurnsAway key request e (.refusal 403 "Invalid API key")
  /-- One of the two keys cannot be encoded. -/
  | incomparable (body : Option Json) (hbody : request.readBody e = .ok body) (given : String)
    (hgiven : request.header? "X-API-Key" = some given) (hne : given ≠ "")
    (hhalf : ¬ (Text.isWhole given = true ∧ Text.isWhole key = true)) :
    TurnsAway key request e .internalError

theorem TurnsAway.refuses {e : Endpoint} {response : Response}
    (h : TurnsAway key request e response) : 400 ≤ response.status := by
  cases h with
  | unread fault => cases fault <;> simp [bodyFault, Response.unprocessable, Response.refusal]
  | missing | wrong | incomparable => simp [Response.refusal, Response.internalError]

theorem Route.grant_eq (hkey : env.AsksFor key) (hr : r.guarded = true) :
    r.grant env request = (do
      let carried ← carriedKey (some key) (.ofOption (request.header? keyHeader))
      return (Api.grant (some key) carried).map fun _ => ()) := by
  rw [Route.grant, if_pos hr, hkey.configuredKey_eq]

theorem Route.grant_of_blank (hkey : env.AsksFor key) (hr : r.guarded = true)
    (hblank : request.header? keyHeader = none ∨ request.header? keyHeader = some "") :
    r.grant env request = .ok (.error .missingKey) := by
  rw [grant_eq hkey hr, carriedKey_of_blank hkey.1 hblank]
  exact congrArg (fun x => Except.ok (x.map fun _ => ())) (grant_none hkey.1)

theorem Route.grant_of_wrong (hkey : env.AsksFor key) (hr : r.guarded = true)
    (hgiven : request.header? keyHeader = some given) (hne : given ≠ "") (hother : given ≠ key)
    (hwhole : Text.isWhole given = true ∧ Text.isWhole key = true) :
    r.grant env request = .ok (.error .wrongKey) := by
  rw [grant_eq hkey hr, hgiven, carriedKey_of_given hkey.1 hne, encoded_of_isWhole hwhole.1,
    encoded_of_isWhole hwhole.2]
  exact congrArg (fun x => Except.ok (x.map fun _ => ())) (grant_of_ne hkey.1 hne hother)

theorem Route.grant_of_half (hkey : env.AsksFor key) (hr : r.guarded = true)
    (hgiven : request.header? keyHeader = some given) (hne : given ≠ "")
    (hhalf : ¬ (Text.isWhole given = true ∧ Text.isWhole key = true)) :
    ∃ failure, r.grant env request = .error failure := by
  rw [grant_eq hkey hr, hgiven, carriedKey_of_given hkey.1 hne]
  by_cases hwhole : Text.isWhole given = true
  · obtain ⟨failure, hfailure⟩ := encoded_of_not_isWhole fun h => hhalf ⟨hwhole, h⟩
    exact ⟨failure, by rw [encoded_of_isWhole hwhole, hfailure]; rfl⟩
  · obtain ⟨failure, hfailure⟩ := encoded_of_not_isWhole hwhole
    exact ⟨failure, by rw [hfailure]; rfl⟩

/-- A guarded route turns a request away before anything happens. -/
theorem Route.respond_stranger (hkey : env.AsksFor key) (hr : r.guarded = true)
    (hcarried : request.header? keyHeader ≠ some key) :
    ∃ response, TurnsAway key request r.endpoint response ∧
      ∀ {σ : Type} (worker : Worker.State) (id : String),
        (r.respond env worker id request : Action σ Response) = pure response := by
  cases hbody : request.readBody r.endpoint with
  | error fault => exact ⟨_, .unread fault hbody, fun worker id => by rw [respond, hbody]⟩
  | ok body =>
    by_cases hblank : request.header? keyHeader = none ∨ request.header? keyHeader = some ""
    · refine ⟨_, .missing body hbody hblank, fun worker id => ?_⟩
      rw [respond, hbody, grant_of_blank hkey hr hblank]
      rfl
    obtain ⟨hsome, hempty⟩ := not_or.mp hblank
    obtain ⟨given, hgiven⟩ := Option.ne_none_iff_exists'.mp hsome
    have hne : given ≠ "" := fun h => hempty (h ▸ hgiven)
    by_cases hwhole : Text.isWhole given = true ∧ Text.isWhole key = true
    · refine ⟨_, .wrong body hbody given hgiven hne hwhole, fun worker id => ?_⟩
      have hother : given ≠ key := fun h => hcarried (h ▸ hgiven)
      rw [respond, hbody, grant_of_wrong hkey hr hgiven hne hother hwhole]
      rfl
    · refine ⟨_, .incomparable body hbody given hgiven hne hwhole, fun worker id => ?_⟩
      obtain ⟨failure, hgrant⟩ := grant_of_half hkey hr hgiven hne hwhole
      rw [respond, hbody, hgrant]

/-- A request to a route of the interface that does not carry the key which the environment asks
for is turned away. The response is known before anything was looked up: it is the same in every
world, which stays what it was. -/
theorem stranger_turned_away (hkey : env.AsksFor key)
    (hroute : Route.lookup request.method request.path = .found r id)
    (hadmin : [.word "api", .word "v1"] <+: r.path)
    (hcarried : request.header? "X-API-Key" ≠ some key) :
    ∃ response, TurnsAway key request r.endpoint response ∧ 400 ≤ response.status ∧
      ∀ (σ : Type) (worker : Worker.State) (s : Surroundings σ) (w : World σ),
        (respond env worker request).run s w = (.ok response, w) := by
  have hr : r.guarded = true :=
    Route.guarded_of_isPrefix r (Route.mem_table_of_lookup hroute) hadmin
  obtain ⟨response, hturns, hrespond⟩ := Route.respond_stranger hkey hr hcarried
  refine ⟨response, hturns, hturns.refuses, fun σ worker s w => ?_⟩
  rw [respond, hroute]
  change (r.respond env worker id request).run s w = _
  rw [hrespond]
  rfl

/-! ### A guess at the key, and a key with a byte that is no text -/

/-- The second variable asks for the key, since the first one is empty. -/
def secret : Environment := [("FUNNELS_API_KEY", ""), ("API_KEY", "secret")]

def guess : Request := ⟨"POST", "/api/v1/leads", [], [("X-API-Key", "guess")], ""⟩

theorem guess_turned_away :
    (secret.AsksFor "secret" ∧
      Route.lookup guess.method guess.path = .found (.admin "POST" [.word "leads"] .subscribe) "" ∧
      guess.header? "X-API-Key" ≠ some "secret") ∧
    ∃ response, TurnsAway "secret" guess .subscribe response ∧ 400 ≤ response.status ∧
      ∀ (σ : Type) (worker : Worker.State) (s : Surroundings σ) (w : World σ),
        (respond secret worker guess).run s w = (.ok response, w) := by
  have hkey : secret.AsksFor "secret" :=
    ⟨by decide, .inr ⟨.inr (by decide +kernel), by decide +kernel⟩⟩
  have hroute : Route.lookup guess.method guess.path =
      .found (.admin "POST" [.word "leads"] .subscribe) "" := by decide +kernel
  have hguess : guess.header? "X-API-Key" ≠ some "secret" := by decide +kernel
  have hadmin : [.word "api", .word "v1"] <+:
      (Route.admin "POST" [.word "leads"] .subscribe).path := by decide
  exact ⟨⟨hkey, hroute, hguess⟩, stranger_turned_away hkey hroute hadmin hguess⟩

/-- A byte of a variable that is no text is read as half of a pair. -/
def blurred : String := "k" ++ String.singleton (Text.ofHalf 0xdcff)

def otherGuess : Request := ⟨"GET", "/api/v1/funnels", [], [("X-API-Key", "x")], ""⟩

/-- The key is given and differs, and this is not what the response says. -/
theorem blurred_key_not_compared :
    Environment.AsksFor [("FUNNELS_API_KEY", blurred)] blurred ∧
    otherGuess.readBody .listFunnels = .ok none ∧
    otherGuess.header? "X-API-Key" = some "x" ∧ "x" ≠ blurred ∧
    ((respond [("FUNNELS_API_KEY", blurred)] .initial otherGuess).run
      (.calm (.ahead 0 0) (.usual .utc 2)) (World.fresh ())).1.toOption.map (·.status) =
        some 500 := by
  refine ⟨⟨?_, .inl ?_⟩, rfl, ?_, ?_, ?_⟩ <;> decide +kernel

end Api

end Nurture
