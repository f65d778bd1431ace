import Liveness.Proofs.Health.Wire
import Liveness.Target.Router

/-!
# Sequences of requests

What a router replies to requests that it handles one after the other. Only a served request
counts as a hit, and the number of the hit decides its reply; so a reply depends on the served
requests before it and on nothing else, and requests that are refused can be left out.

A single request moves the target to the next hit or leaves it as it is (`handle_after`). From
this follows where the target stands after any number of requests, and so each reply of a sequence
is the reply to a single request by a target that has counted the served requests before it
(`replies_getElem?`).
-/

namespace Liveness

/-! ## The reply to a hit -/

namespace Target

theorem label_eq (s : StatusCode) :
    label s = if 200 ≤ s.value ∧ s.value ≤ 299 then "ok" else "error" := by
  simp only [label, StatusCode.isSuccess, Bool.and_eq_true, decide_eq_true_eq]

/-- The body of a reply is read as the health of its hit. -/
theorem parse_body (b : Behavior) (hit : Nat) :
    Health.parse (reply b hit).body = .ok (health b hit) :=
  Health.parse_json _

theorem health_hit {hit : Nat} (h : hit < UInt64.size) (b : Behavior) :
    (health b hit).hit.toNat = hit := by
  rw [health, UInt64.toNat_ofNat', Nat.mod_eq_of_lt h]

end Target

namespace Router

open Target

/-! ## Which requests are served -/

def serves (r : Request) : Bool :=
  match route r with
  | .served _ => true
  | _ => false

theorem route_of_get {r : Request} (hpath : r.uri.path = "/") (hget : r.method = "GET") :
    route r = .served true := by
  rw [route, if_pos hpath, if_pos hget]

theorem ne_get_of_head {method : String} (hhead : method = "HEAD") : method ≠ "GET" := by
  rw [hhead]
  decide

theorem route_of_head {r : Request} (hpath : r.uri.path = "/") (hhead : r.method = "HEAD") :
    route r = .served false := by
  rw [route, if_pos hpath, if_neg (ne_get_of_head hhead), if_pos hhead]

theorem route_of_other {r : Request} (hpath : r.uri.path = "/") (hget : r.method ≠ "GET")
    (hhead : r.method ≠ "HEAD") : route r = .wrongMethod := by
  rw [route, if_pos hpath, if_neg hget, if_neg hhead]

theorem route_of_path {r : Request} (hpath : r.uri.path ≠ "/") :
    route r = .wrongPath ∨ route r = .noPath := by
  rw [route, if_neg hpath]
  split
  · exact .inl rfl
  · exact .inr rfl

theorem serves_iff {r : Request} :
    serves r = true ↔ r.uri.path = "/" ∧ (r.method = "GET" ∨ r.method = "HEAD") := by
  constructor
  · intro h
    by_cases hpath : r.uri.path = "/"
    · refine ⟨hpath, ?_⟩
      by_contra hmethod
      obtain ⟨hget, hhead⟩ := not_or.mp hmethod
      rw [serves, route_of_other hpath hget hhead] at h
      cases h
    · rcases route_of_path hpath with hroute | hroute <;>
      · rw [serves, hroute] at h
        cases h
  · rintro ⟨hpath, hget | hhead⟩
    · rw [serves, route_of_get hpath hget]
    · rw [serves, route_of_head hpath hhead]

/-! ## One request -/

/-- The reply to a request that is served, by the number of its hit. -/
structure Served (b : Behavior) (hit : Nat) (method : String) (reply : Reply) : Prop where
  status : reply.status = statusFor b hit
  contentType : reply.headers.lookup "content-type" = some "application/json"
  body : method = "GET" → ∃ health, Health.parse reply.body = .ok health
    ∧ health.hit.toNat = hit
    ∧ health.status = if 200 ≤ reply.status.value ∧ reply.status.value ≤ 299 then "ok" else "error"
  noBody : method = "HEAD" → reply.body = ""

/-- The reply to a request that is not served. -/
structure Refused (r : Request) (reply : Reply) : Prop where
  wrongPath : r.uri.path ≠ "/" → reply.status = .notFound
  wrongMethod : r.uri.path = "/" → reply.status = .methodNotAllowed
  body : reply.body = ""

/-- The reply to a request when some hits were counted before. -/
structure Answered (b : Behavior) (before : Nat) (r : Request) (reply : Reply) : Prop where
  served : serves r = true → Served b (before + 1) r.method reply
  refused : serves r = false → Refused r reply

theorem handle_of_serves {r : Request} (h : serves r = true) (t : Target) :
    handle t r
      = ({ reply t.behavior (t.hits + 1) with
            body := if r.method = "GET" then (reply t.behavior (t.hits + 1)).body else "" },
        ⟨t.behavior, t.hits + 1⟩,
        some (.served (t.hits + 1) (statusFor t.behavior (t.hits + 1)).value)) := by
  obtain ⟨hpath, hget | hhead⟩ := serves_iff.mp h
  · rw [handle, route_of_get hpath hget, if_pos hget]
    rfl
  · rw [handle, route_of_head hpath hhead, if_neg (ne_get_of_head hhead)]
    rfl

theorem handle_of_not_serves {r : Request} (h : serves r = false) (t : Target) :
    handle t r = (refusal (route r), t, none) := by
  rw [handle]
  split
  · rename_i hroute
    rw [serves, hroute] at h
    cases h
  · rfl

/-- The target after a request. -/
theorem handle_after (t : Target) (r : Request) :
    (handle t r).2.1 = ⟨t.behavior, t.hits + if serves r then 1 else 0⟩ := by
  cases h : serves r with
  | true => rw [handle_of_serves h]; rfl
  | false => rw [handle_of_not_serves h]; rfl

theorem handle_answered {t : Target} (hfew : t.hits + 1 < UInt64.size) (r : Request) :
    Answered t.behavior t.hits r (handle t r).1 := by
  constructor
  · intro h
    rw [handle_of_serves h]
    refine ⟨rfl, rfl, fun hget => ?_, fun hhead => if_neg (ne_get_of_head hhead)⟩
    dsimp only
    rw [if_pos hget]
    exact ⟨_, parse_body _ _, health_hit hfew _, label_eq _⟩
  · intro h
    rw [handle_of_not_serves h]
    by_cases hpath : r.uri.path = "/"
    · have hmethod : ¬(r.method = "GET" ∨ r.method = "HEAD") := fun hmethod =>
        Bool.eq_false_iff.mp h (serves_iff.mpr ⟨hpath, hmethod⟩)
      obtain ⟨hget, hhead⟩ := not_or.mp hmethod
      rw [route_of_other hpath hget hhead]
      exact ⟨fun hne => absurd hpath hne, fun _ => rfl, rfl⟩
    · rcases route_of_path hpath with hroute | hroute <;>
      · rw [hroute]
        exact ⟨fun _ => rfl, fun heq => absurd heq hpath, rfl⟩

/-! ## Requests one after the other -/

theorem handleAll_cons (t : Target) (r : Request) (rs : List Request) :
    handleAll t (r :: rs)
      = ((handle t r).1 :: (handleAll (handle t r).2.1 rs).1, (handleAll (handle t r).2.1 rs).2.1,
        (handle t r).2.2.toList ++ (handleAll (handle t r).2.1 rs).2.2) :=
  rfl

theorem length_replies (t : Target) (rs : List Request) :
    (handleAll t rs).1.length = rs.length := by
  induction rs generalizing t with
  | nil => rfl
  | cons r rs ih => exact congrArg (· + 1) (ih _)

/-- The target after a sequence: it has counted the served requests. -/
theorem handleAll_after (t : Target) (rs : List Request) :
    (handleAll t rs).2.1 = ⟨t.behavior, t.hits + rs.countP serves⟩ := by
  induction rs generalizing t with
  | nil => rfl
  | cons r rs ih =>
      calc (handleAll t (r :: rs)).2.1
          _ = ⟨(handle t r).2.1.behavior, (handle t r).2.1.hits + rs.countP serves⟩ := ih _
          _ = ⟨t.behavior, t.hits + (r :: rs).countP serves⟩ := by
            rw [handle_after, List.countP_cons, Nat.add_assoc, Nat.add_comm (rs.countP serves)]

/-- A reply of a sequence is the reply to its request by a target that has counted the served
requests before it. -/
theorem replies_getElem? (t : Target) (rs : List Request) (i : Nat) :
    (handleAll t rs).1[i]?
      = rs[i]?.map fun r => (handle ⟨t.behavior, t.hits + (rs.take i).countP serves⟩ r).1 := by
  induction rs generalizing t i with
  | nil => rfl
  | cons r rs ih =>
      cases i with
      | zero => rfl
      | succ i =>
          rw [handleAll_cons, List.getElem?_cons_succ, ih, handle_after, List.take_succ_cons,
            List.countP_cons, Nat.add_assoc, Nat.add_comm ((rs.take i).countP serves)]
          rfl

/-- Of the replies to some requests those to the requests that are served. -/
def toServed (rs : List Request) (replies : List Reply) : List Reply :=
  ((rs.zip replies).filter fun p => serves p.1).map Prod.snd

theorem toServed_cons (r : Request) (rs : List Request) (reply : Reply) (replies : List Reply) :
    toServed (r :: rs) (reply :: replies)
      = if serves r then reply :: toServed rs replies else toServed rs replies := by
  rw [toServed, List.zip_cons_cons, List.filter_cons]
  split <;> rfl

/-- Without the requests that are refused, the others get the same replies, and the target and its
notices come out the same. -/
theorem handleAll_filter (t : Target) (rs : List Request) :
    handleAll t (rs.filter serves)
      = (toServed rs (handleAll t rs).1, (handleAll t rs).2) := by
  induction rs generalizing t with
  | nil => rfl
  | cons r rs ih =>
      rw [List.filter_cons, handleAll_cons, toServed_cons]
      split
      · rw [handleAll_cons, ih]
      · rename_i h
        rw [handle_of_not_serves (Bool.eq_false_iff.mpr h), ih]
        rfl

/-! ## A target from its first request on -/

/-- The replies to the first requests to a target. -/
def replies (b : Behavior) (rs : List Request) : List Reply := (handleAll (ofBehavior b) rs).1

/-- The hits of a target after its first requests. -/
def hitsAfter (b : Behavior) (rs : List Request) : Nat := (handleAll (ofBehavior b) rs).2.1.hits

theorem hitsAfter_eq (b : Behavior) (rs : List Request) : hitsAfter b rs = rs.countP serves := by
  rw [hitsAfter, handleAll_after]
  exact Nat.zero_add _

/-- The requests that a target serves are the GETs and HEADs of the root, whatever their query.
Each request of a sequence is answered by the number of served requests before it, and at every
place of the sequence the target has counted as many hits. What is not served moves nothing, and
if it is left out, every reply to a served request stays the same. -/
theorem requests_answered (b : Behavior) {rs : List Request} (hfew : rs.length < UInt64.size) :
    (∀ r, serves r = true ↔ r.uri.path = "/" ∧ (r.method = "GET" ∨ r.method = "HEAD"))
      ∧ (replies b rs).length = rs.length
      ∧ (∀ i r, rs[i]? = some r → ∃ reply, (replies b rs)[i]? = some reply
        ∧ Answered b ((rs.take i).countP serves) r reply)
      ∧ (∀ i, hitsAfter b (rs.take i) = (rs.take i).countP serves)
      ∧ (∀ i r, rs[i]? = some r → serves r = false →
        hitsAfter b (rs.take (i + 1)) = hitsAfter b (rs.take i))
      ∧ replies b (rs.filter serves) = toServed rs (replies b rs) := by
  refine ⟨fun _ => serves_iff, length_replies _ _, ?_, fun i => hitsAfter_eq b _, ?_, ?_⟩
  · intro i r hr
    have hroom : (0 + (rs.take i).countP serves) + 1 < UInt64.size := by
      obtain ⟨hi, -⟩ := List.getElem?_eq_some_iff.mp hr
      have hle := List.countP_le_length (p := serves) (l := rs.take i)
      rw [List.length_take] at hle
      omega
    have hanswered := handle_answered (t := ⟨b, 0 + (rs.take i).countP serves⟩) hroom r
    rw [Nat.zero_add] at hanswered
    refine ⟨_, ?_, hanswered⟩
    rw [replies, replies_getElem?, hr, ofBehavior, Nat.zero_add]
    rfl
  · intro i r hr hserves
    rw [hitsAfter_eq, hitsAfter_eq, List.take_add_one, hr, List.countP_append,
      Option.toList_some, List.countP_singleton, hserves]
    rfl
  · rw [replies, handleAll_filter]
    rfl

def uriOf (path : String) (query : Option String) : Uri := ⟨none, "", path, query⟩

/-- Three requests that are served, two of them with a query, and two that are not. -/
def mixedRequests : List Request :=
  [⟨"GET", uriOf "/" (some "a=1")⟩, ⟨"POST", uriOf "/" none⟩, ⟨"GET", uriOf "/missing" none⟩,
    ⟨"HEAD", uriOf "/" (some "")⟩, ⟨"GET", uriOf "/" none⟩]

/-- Every second hit is bad: that is the HEAD, though it is the fourth request. -/
theorem mixed_requests_answered :
    (∃ reply, (replies (.failEvery 2) mixedRequests)[3]? = some reply
        ∧ reply.status = .serverError ∧ reply.body = "")
      ∧ (∃ reply health, (replies (.failEvery 2) mixedRequests)[4]? = some reply
        ∧ reply.status = .ok ∧ Health.parse reply.body = .ok health
        ∧ health.status = "ok" ∧ health.hit.toNat = 3)
      ∧ hitsAfter (.failEvery 2) mixedRequests = 3
      ∧ replies (.failEvery 2) (mixedRequests.filter serves)
        = toServed mixedRequests (replies (.failEvery 2) mixedRequests) := by
  have hfew : mixedRequests.length < UInt64.size := by decide
  obtain ⟨-, -, hreply, hhits, -, hfilter⟩ := requests_answered (.failEvery 2) hfew
  obtain ⟨fourth, hfourth, hanswer⟩ := hreply 3 _ rfl
  obtain ⟨fifth, hfifth, hanswer'⟩ := hreply 4 _ rfl
  have hhead := hanswer.served (by decide)
  have hget := hanswer'.served (by decide)
  have hok : fifth.status = .ok := hget.status
  obtain ⟨health, hparse, hhit, hlabel⟩ := hget.body rfl
  rw [hok] at hlabel
  exact ⟨⟨fourth, hfourth, hhead.status, hhead.noBody rfl⟩,
    ⟨fifth, health, hfifth, hok, hparse, hlabel, hhit⟩, hhits 5, hfilter⟩

end Router

end Liveness
