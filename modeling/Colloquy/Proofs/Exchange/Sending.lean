import Colloquy.Exchange
import Colloquy.Proofs.Outcome

/-! # Sending a request

Whether a request can be sent is decided before anything is, by its body and by what stays the same
about a link. Once it is sent, the next reply is what comes back.
-/
set_option autoImplicit false

namespace Colloquy

namespace Link

def finds (endpoint : Option Endpoint) (check : Endpoint → Except Fault Unit) : Except Fault Unit :=
  endpoint.elim (.ok ()) check

def body? (l : Link) (r : Request) : Except Fault String := do
  let payload ← r.toValue
  finds l.endpoint Endpoint.checkAddress
  let body ← Json.Obstacle.lift (Json.dump .compact payload)
  finds l.endpoint Endpoint.checkHost
  if l.isOpen then return body else throw .clientClosed

def sending (l : Link) (body : String) : Link :=
  { l with sent := l.sent ++ [body], replies := l.replies.tail }

def answer (endpoint : Option Endpoint) : Option Reply → Except Fault (Int × List Piece)
  | none => .error .scriptExhausted
  | some (.fault f) => .error f
  | some (.answer status body) => (finds endpoint Endpoint.checkOrigin).map fun _ => (status, body)

theorem exec_ask (check : Endpoint → Except Fault Unit) (l : Link) :
    (ask check).exec l = (finds l.endpoint check, l) := by
  rw [ask, Run.exec_bind]
  cases hEndpoint : l.endpoint with
  | none => simp [finds, hEndpoint]
  | some endpoint => simp [finds, hEndpoint]

theorem exec_post (body : String) (l : Link) :
    (post body).exec l = match finds l.endpoint Endpoint.checkHost with
      | .error f => (.error f, l)
      | .ok () =>
        if l.isOpen then (answer l.endpoint l.replies.head?, l.sending body)
        else (.error .clientClosed, l) := by
  rw [post, Run.exec_bind, exec_ask]
  cases finds l.endpoint Endpoint.checkHost with
  | error f => rfl
  | ok u =>
    cases hOpen : l.isOpen with
    | false => simp [Run.exec_bind, hOpen]
    | true =>
      cases hReplies : l.replies with
      | nil => simp [Run.exec_bind, hOpen, hReplies, answer, sending]
      | cons reply rest =>
        cases reply with
        | fault f => simp [Run.exec_bind, hOpen, hReplies, answer, sending]
        | answer status pieces =>
          cases hOrigin : finds l.endpoint Endpoint.checkOrigin <;>
            simp [Run.exec_bind, Run.exec_map, exec_ask, hOpen, hReplies, hOrigin, answer, sending,
              Except.map]

end Link

namespace Exchange

theorem exec_send (r : Request) (l : Link) :
    (send r).exec l = match l.body? r with
      | .error f => (.error f, l)
      | .ok body => (Link.answer l.endpoint l.replies.head?, l.sending body) := by
  simp only [send, Link.body?, Link.address, Run.exec_bind, Run.exec_ofExcept]
  cases r.toValue with
  | error f => rfl
  | ok payload =>
    simp only [Link.exec_ask]
    cases Link.finds l.endpoint Endpoint.checkAddress with
    | error f => rfl
    | ok u =>
      simp only [ok_bind]
      cases Json.Obstacle.lift (Json.dump .compact payload) with
      | error f => rfl
      | ok body =>
        simp only [Link.exec_post]
        cases Link.finds l.endpoint Endpoint.checkHost with
        | error f => rfl
        | ok u =>
          cases l.isOpen <;> rfl

def completed (endpoint : Option Endpoint) (reply : Option Reply) :
    Except Fault (Option Completion) :=
  match (Link.answer endpoint reply).bind fun a => (wholeBody a.2).map (a.1, ·) with
  | .error f => .error (ofNetwork "API" f)
  | .ok (status, octets) => interpret status octets

theorem exec_complete {r : Request} (whole : r.stream.truthy = false) (l : Link) :
    (complete r).exec l = match l.body? r with
      | .error f => (.error (ofNetwork "API" f), l)
      | .ok body => (completed l.endpoint l.replies.head?, l.sending body) := by
  have fetched : (fetch r).exec l = match l.body? r with
      | .error f => (.error f, l)
      | .ok body => ((Link.answer l.endpoint l.replies.head?).bind fun a =>
          (wholeBody a.2).map (a.1, ·), l.sending body) := by
    rw [fetch, Run.exec_bind, exec_send]
    cases l.body? r with
    | error f => rfl
    | ok body =>
      cases hAnswer : Link.answer l.endpoint l.replies.head? with
      | error f => rfl
      | ok a =>
        obtain ⟨status, pieces⟩ := a
        simp only [Run.exec_bind, Run.exec_ofExcept]
        cases hWhole : wholeBody pieces <;> simp [Except.bind, Except.map, hWhole]
  simp only [complete, whole, Bool.false_eq_true, if_false, Run.exec_bind, Run.exec_liftM,
    Run.run_outcome, fetched]
  cases l.body? r with
  | error f => rfl
  | ok body =>
    simp only [completed]
    cases (Link.answer l.endpoint l.replies.head?).bind fun a => (wholeBody a.2).map (a.1, ·) with
    | error f => rfl
    | ok a => simp

/-- A fault that no other attempt avoids, and that is no fault of the network. -/
def Lasting (f : Fault) : Prop :=
  f.isTransient = false ∧ ofNetwork "stream" f = f

theorem lasting_of_checkAddress {e : Endpoint} {f : Fault} (h : e.checkAddress = .error f) :
    Lasting f := by
  unfold Endpoint.checkAddress at h
  split at h
  · cases h
  · cases h
    exact ⟨rfl, rfl⟩

theorem lasting_of_checkHost {e : Endpoint} {f : Fault} (h : e.checkHost = .error f) :
    Lasting f := by
  unfold Endpoint.checkHost at h
  split at h
  · split at h
    · cases h
    · cases h
      exact ⟨rfl, rfl⟩
  · cases h
    exact ⟨rfl, rfl⟩

theorem lasting_of_dump {style : Json.Style} {v : Value} {f : Fault}
    (h : Json.Obstacle.lift (Json.dump style v) = .error f) : Lasting f := by
  cases dumped : Json.dump style v with
  | ok text =>
    rw [dumped] at h
    cases h
  | error o =>
    rw [dumped] at h
    cases h
    exact ⟨rfl, rfl⟩

theorem lasting_of_toValue {r : Request} {f : Fault} (h : r.toValue = .error f) : Lasting f := by
  obtain h | ⟨tools, -, h⟩ := error_of_bind h
  · cases asked : r.layer.tools with
    | none =>
      rw [asked] at h
      cases h
    | some ts =>
      rw [asked] at h
      obtain ⟨t, -, failed⟩ := error_of_mapM (error_of_map h)
      obtain dumped | ⟨text, -, failed⟩ := error_of_bind failed
      · exact lasting_of_dump dumped
      · cases failed
  · cases h

theorem lasting_of_finds {endpoint : Option Endpoint} {check : Endpoint → Except Fault Unit}
    {f : Fault} (h : Link.finds endpoint check = .error f)
    (lasting : ∀ e, check e = .error f → Lasting f) : Lasting f := by
  cases endpoint with
  | none => cases h
  | some e => exact lasting e h

theorem lasting_of_body? {l : Link} {r : Request} {f : Fault} (h : l.body? r = .error f) :
    Lasting f := by
  unfold Link.body? at h
  obtain hPayload | ⟨payload, -, h⟩ := error_of_bind h
  · exact lasting_of_toValue hPayload
  obtain hAddress | ⟨u, -, h⟩ := error_of_bind h
  · exact lasting_of_finds hAddress fun e he => lasting_of_checkAddress he
  obtain hBody | ⟨body, -, h⟩ := error_of_bind h
  · exact lasting_of_dump hBody
  obtain hHost | ⟨u, -, h⟩ := error_of_bind h
  · exact lasting_of_finds hHost fun e he => lasting_of_checkHost he
  cases hOpen : l.isOpen with
  | true =>
    rw [hOpen] at h
    cases h
  | false =>
    rw [hOpen] at h
    cases h
    exact ⟨rfl, rfl⟩

end Exchange

end Colloquy
