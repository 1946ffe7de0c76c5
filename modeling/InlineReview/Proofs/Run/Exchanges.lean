import InlineReview.Proofs.Run.Traffic

/-!
# Requests with their replies

The replies of a service come in the order of the requests to it, so that what was sent tells which
reply came for which request.  `Traffic.exchanges` pairs them, from the traffic before the first of
the requests.

* `Traffic.exchanges_append` — the exchanges of what is sent one after the other.
* `Traffic.Sends.trans` — requests that are all that is sent, in parts.
-/

namespace InlineReview

/-- A request with the reply that comes for it. -/
structure Exchange where
  request : Request
  reply : Reply

namespace Traffic

variable {t u t₁ t' : Traffic} {q : Request} {qs ps : List Request}

/-- Requests with the replies that come for them, if nothing else is sent in between. -/
def exchanges (t : Traffic) : List Request → List Exchange
  | [] => []
  | q :: qs => { request := q, reply := t.replyFor q } :: (t.send q).exchanges qs

@[simp] theorem exchanges_nil (t : Traffic) : t.exchanges [] = [] := rfl

@[simp] theorem exchanges_cons (t : Traffic) (q : Request) (qs : List Request) :
    t.exchanges (q :: qs) =
      { request := q, reply := t.replyFor q } :: (t.send q).exchanges qs := rfl

@[simp] theorem requests_exchanges (t : Traffic) (qs : List Request) :
    (t.exchanges qs).map Exchange.request = qs := by
  induction qs generalizing t with
  | nil => rfl
  | cons q qs ih => rw [exchanges_cons, List.map_cons, ih]

theorem exchanges_append (t : Traffic) (qs ps : List Request) :
    t.exchanges (qs ++ ps) = t.exchanges qs ++ (t.sendAll qs).exchanges ps := by
  induction qs generalizing t with
  | nil => rfl
  | cons q qs ih => rw [List.cons_append, exchanges_cons, ih, exchanges_cons, sendAll_cons]; rfl

/-! ## The replies that are left -/

theorem replies_send (t : Traffic) (q : Request) (service : Remote) :
    (t.send q).replies service =
      if q.remote = service then (t.replies service).tail else t.replies service := by
  cases h : q.remote <;> cases service <;> simp [send, replies, h]

theorem replies_send_congr (h : t.replies = u.replies) (q : Request) :
    (t.send q).replies = (u.send q).replies := by
  funext service
  rw [replies_send, replies_send, h]

theorem replies_sendAll_congr (h : t.replies = u.replies) (qs : List Request) :
    (t.sendAll qs).replies = (u.sendAll qs).replies := by
  induction qs generalizing t u with
  | nil => exact h
  | cons q qs ih => exact ih (replies_send_congr h q)

theorem replyFor_congr (h : t.replies = u.replies) (q : Request) : t.replyFor q = u.replyFor q := by
  rw [replyFor, replyFor, h]

/-- Which replies come depends on those that are left alone. -/
theorem exchanges_congr (h : t.replies = u.replies) (qs : List Request) :
    t.exchanges qs = u.exchanges qs := by
  induction qs generalizing t u with
  | nil => rfl
  | cons q qs ih =>
    rw [exchanges_cons, exchanges_cons, replyFor_congr h, ih (replies_send_congr h q)]

/-! ## All that is sent -/

/-- Are these requests all that is sent from one traffic to another? -/
structure Sends (t : Traffic) (qs : List Request) (t' : Traffic) : Prop where
  sent_eq : t'.sent = t.sent ++ qs
  replies_eq : t'.replies = (t.sendAll qs).replies

namespace Sends

theorem of_sendAll (h : t' = t.sendAll qs) : t.Sends qs t' := by
  rw [h]
  exact ⟨t.sent_sendAll qs, rfl⟩

/-- Nothing is sent. -/
theorem refl (t : Traffic) : t.Sends [] t := of_sendAll rfl

/-- One request is sent. -/
theorem single (t : Traffic) (q : Request) : t.Sends [q] (t.send q) := of_sendAll rfl

/-- What is sent is told by the traffic before and after. -/
theorem unique (h : t.Sends qs t') (h' : t.Sends ps t') : qs = ps :=
  List.append_cancel_left (h.sent_eq.symm.trans h'.sent_eq)

theorem trans (h : t.Sends qs t₁) (h' : t₁.Sends ps t') : t.Sends (qs ++ ps) t' where
  sent_eq := by rw [h'.sent_eq, h.sent_eq, List.append_assoc]
  replies_eq := by rw [h'.replies_eq, sendAll_append, replies_sendAll_congr h.replies_eq]

end Sends

end Traffic

end InlineReview
