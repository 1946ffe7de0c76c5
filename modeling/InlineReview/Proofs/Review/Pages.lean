import InlineReview.Proofs.Review.Inputs
import InlineReview.Proofs.Run.Deeds
import Mathlib.Data.List.Forall2

/-!
# Pages of a list

The code host lists the changed files in pages.  Each request for a page names it in its query, a
full page is followed by the request for the next one, and the first page that is not full is the
last one that is asked for.  So a host that serves a list in pages of a hundred is asked for exactly
the pages that the list fills and the one after them.

* `CodeHost.query_of_listPage` — the query in which a page is named.
* `CodeHost.outcome_listFrom_pages` — full pages are followed by what comes after them.
* `CodeHost.outcome_listFrom_served` — a list that is served in pages is listed as it is.
-/

namespace InlineReview

open Text Web

/-! ## Queries -/

namespace RequestAddress

theorem query_of_ofParts {t : AddressText} {a : RequestAddress} (h : ofParts t = .ok a) :
    t.query.mapM (escapedPart querySet) = .ok a.query := by
  unfold ofParts at h
  simp only [bind, Except.bind, pure, Except.pure] at h
  repeat' split at h
  all_goals first | cases h; assumption | cases h

/-- Does a text hold nothing that a query escapes? -/
def IsPlain (s : List Char) : Prop := ∀ c ∈ s, 0x20 ≤ c.toNat ∧ c.toNat < 0x7F ∧ c ∉ querySet

instance (s : List Char) : Decidable (IsPlain s) :=
  List.decidableBAll (fun c : Char => 0x20 ≤ c.toNat ∧ c.toNat < 0x7F ∧ c ∉ querySet) s

theorem isPlain_append {s r : List Char} : IsPlain (s ++ r) ↔ IsPlain s ∧ IsPlain r :=
  List.forall_mem_append

theorem isPlain_repr (n : Nat) : IsPlain n.repr.toList := by
  intro c hc
  rw [Nat.toList_repr] at hc
  have hdigit := Nat.isDigit_of_mem_toDigits (by decide) (by decide) hc
  simp only [Char.isDigit, Bool.and_eq_true, decide_eq_true_eq] at hdigit
  have hlo : 48 ≤ c.toNat := UInt32.le_iff_toNat_le.1 hdigit.1
  have hhi : c.toNat ≤ 57 := UInt32.le_iff_toNat_le.1 hdigit.2
  refine ⟨by omega, by omega, fun hmem => ?_⟩
  have hset : ∀ d ∈ querySet, d.toNat < 48 ∨ 57 < d.toNat := by simp [querySet]
  rcases hset c hmem with h | h <;> omega

theorem escaped_of_isPlain {s : List Char} (h : IsPlain s) : escaped querySet s = s := by
  induction s with
  | nil => rfl
  | cons c s ih =>
    obtain ⟨hlo, hhi, hset⟩ := h c (by simp)
    have hc : escapedChar querySet c = [c] := by simp [escapedChar, hlo, hhi, hset]
    have hrest := ih fun d hd => h d (by simp [hd])
    rw [escaped, List.flatMap_cons, hc, ← escaped, hrest]
    rfl

theorem escapedPart_of_isPlain {s : List Char} (h : IsPlain s) :
    escapedPart querySet s = .ok s := by
  have hwritable : s.find? isStandIn = none := by
    refine List.find?_eq_none.2 fun c hc => ?_
    have hlt : c.toNat < 0x10000 := by
      have hascii := (h c hc).2.1
      omega
    simp [isStandIn_of_lt hlt]
  rw [escapedPart, hwritable]
  exact congrArg Except.ok (escaped_of_isPlain h)

/-- An address has the query that it is given, if there is nothing to escape. -/
theorem query_of_withQuery {a b : RequestAddress} {query : List Char}
    (h : a.withQuery query = .ok b) (hplain : IsPlain query) : b.query = some query := by
  unfold withQuery reread at h
  split at h
  · cases h
  · have hquery : (escapedPart querySet query).map some = .ok b.query := by
      rw [← query_of_ofParts h]
      cases hpart : escapedPart querySet query <;> simp [hpart, Functor.map, Except.map]
    rw [escapedPart_of_isPlain hplain] at hquery
    exact (Except.ok.inj hquery).symm

end RequestAddress

theorem Base.query_of_request {base : Base} {path p : String} {address : RequestAddress}
    (h : base.request path (some p) = .ok address) (hplain : RequestAddress.IsPlain p.toList) :
    address.query = some p.toList := by
  unfold request at h
  simp only [bind, Except.bind] at h
  split at h
  · cases h
  split at h
  · cases h
  exact RequestAddress.query_of_withQuery h hplain

theorem Client.address_of_request {c : Client} {method : Method} {path : String}
    {parameters : Option String} {body : Option Json} {q : Request}
    (h : c.request method path parameters body = .ok q) :
    ∃ address, c.base.request path parameters = .ok address ∧
      q.url = String.ofList address.text := by
  unfold request at h
  simp only [bind, Except.bind, pure, Except.pure, throw, throwThe, MonadExceptOf.throw] at h
  repeat' split at h
  all_goals cases h
  exact ⟨_, Run.toOption_eq_some.1 (Run.mapError_eq_ok.1 ‹_›), rfl⟩

namespace CodeHost

variable {c : Client} {fullName : String} {pull : Int} {page : Nat}

/-- A page is named in the query of its request. -/
theorem query_of_listPage {q : Request} (h : (listPage c fullName pull page).request = .ok q) :
    ∃ address : RequestAddress, q.url = String.ofList address.text ∧
      address.query = some s!"per_page=100&page={page}".toList := by
  rw [listPage, request_call] at h
  cases hpath : resourcePath fullName s!"pulls/{pull}/files" with
  | error e =>
    rw [hpath] at h
    cases h
  | ok path =>
    rw [hpath] at h
    obtain ⟨address, haddress, hurl⟩ := Client.address_of_request h
    refine ⟨address, hurl, Base.query_of_request haddress ?_⟩
    simp only [String.toList_append, RequestAddress.isPlain_append]
    exact ⟨by decide, RequestAddress.isPlain_repr page⟩

/-- Is this the request for a page, which names it? -/
structure AsksFor (c : Client) (fullName : String) (pull : Int) (page : Nat) (q : Request) :
    Prop where
  request_eq : (listPage c fullName pull page).request = .ok q
  method_eq : q.method = .get
  named : ∃ address : RequestAddress, q.url = String.ofList address.text ∧
    address.query = some s!"per_page=100&page={page}".toList

theorem asksFor_of_request {q : Request} (h : (listPage c fullName pull page).request = .ok q) :
    AsksFor c fullName pull page q :=
  ⟨h, (parts_of_call h).2.1, query_of_listPage h⟩

/-! ## Page after page -/

/-- A page of which the reply holds the entries is asked for and read. -/
theorem outcome_listPage {reply : Reply} {replies : List Reply} {entries : List Json} {w : World}
    (hremote : c.remote = .codeHost) (hlistable : IsListable c fullName pull page)
    (hreplies : w.hostReplies = reply :: replies) (hentries : entriesIn? reply = some entries) :
    ∃ q w', AsksFor c fullName pull page q ∧
      (listPage c fullName pull page).perform.outcome w = (.ok entries, w') ∧
      w'.hostReplies = replies ∧ w'.sent = w.sent ++ [q] := by
  obtain ⟨q, hrequest, -⟩ := id hlistable
  have hq : q.remote = .codeHost := (purpose_listing hremote hrequest).1
  have hreply : w.replyFor q = reply := by
    simp [World.replyFor, World.replies, hq, hreplies]
  have hresult := (agrees_listPage hrequest reply).ok_of_told hlistable entries hentries
  have hleft : (w.receive q).hostReplies = replies := by
    have h := congrArg Traffic.hostReplies (w.traffic_receive q)
    rw [Traffic.hostReplies_send_host hq] at h
    exact h.trans (congrArg List.tail hreplies)
  refine ⟨q, (w.receive q).pass reply.delay, asksFor_of_request hrequest, ?_, hleft,
    w.sent_receive q⟩
  rw [Call.outcome_perform_ok hrequest, hreply, hresult]

/-- A full page is followed by the pages after it. -/
theorem outcome_listFrom_full {reply : Reply} {replies : List Reply} {entries : List Json}
    {w : World} (fuel : Nat) (hremote : c.remote = .codeHost)
    (hlistable : IsListable c fullName pull page) (hreplies : w.hostReplies = reply :: replies)
    (hentries : entriesIn? reply = some entries) (hfull : ¬ entries.length < pageSize) :
    ∃ q w', AsksFor c fullName pull page q ∧ w'.hostReplies = replies ∧ w'.sent = w.sent ++ [q] ∧
      (listFrom c fullName pull (fuel + 1) page).outcome w =
        ((entries ++ ·) <$> listFrom c fullName pull fuel (page + 1)).outcome w' := by
  obtain ⟨q, w', hasks, hpage, hleft, hsent⟩ :=
    outcome_listPage hremote hlistable hreplies hentries
  refine ⟨q, w', hasks, hleft, hsent, ?_⟩
  rw [listFrom, Run.outcome_bind_ok hpage, if_neg hfull, map_eq_pure_bind]

/-- A page that is not full is the last one. -/
theorem outcome_listFrom_short {reply : Reply} {replies : List Reply} {entries : List Json}
    {w : World} (fuel : Nat) (hremote : c.remote = .codeHost)
    (hlistable : IsListable c fullName pull page) (hreplies : w.hostReplies = reply :: replies)
    (hentries : entriesIn? reply = some entries) (hshort : entries.length < pageSize) :
    ∃ q w', AsksFor c fullName pull page q ∧ w'.sent = w.sent ++ [q] ∧
      (listFrom c fullName pull (fuel + 1) page).outcome w = (.ok entries, w') := by
  obtain ⟨q, w', hasks, hpage, -, hsent⟩ := outcome_listPage hremote hlistable hreplies hentries
  refine ⟨q, w', hasks, hsent, ?_⟩
  rw [listFrom, Run.outcome_bind_ok hpage, if_pos hshort]
  rfl

/-- Full pages are asked for and listed one after the other, and then what comes after them. -/
theorem outcome_listFrom_pages {front : List Reply} {pages : List (List Json)} (fuel : Nat)
    (hremote : c.remote = .codeHost)
    (hfront : List.Forall₂ (fun reply entries => entriesIn? reply = some entries ∧
      ¬ entries.length < pageSize) front pages) :
    ∀ (page : Nat) {w : World} {replies : List Reply}, w.hostReplies = front ++ replies →
      (∀ k < front.length, IsListable c fullName pull (page + k)) →
      ∃ qs w', List.Forall₂ (AsksFor c fullName pull) (List.range' page front.length) qs ∧
        w'.sent = w.sent ++ qs ∧ w'.hostReplies = replies ∧
        (listFrom c fullName pull (fuel + front.length) page).outcome w =
          ((pages.flatten ++ ·) <$> listFrom c fullName pull fuel (page + front.length)).outcome
            w' := by
  induction hfront with
  | nil =>
    intro page w replies hreplies _
    refine ⟨[], w, .nil, (List.append_nil _).symm, hreplies, ?_⟩
    have hid : ((fun entries : List Json => ([] : List (List Json)).flatten ++ entries)) = id := rfl
    rw [hid, id_map]
    rfl
  | @cons reply entries front pages hfirst _ ih =>
    intro page w replies hreplies hlistable
    have hpage : IsListable c fullName pull page := hlistable 0 (Nat.succ_pos _)
    obtain ⟨q, w₁, hasks, hleft, hsent, hstep⟩ := outcome_listFrom_full (fuel + front.length)
      hremote hpage hreplies hfirst.1 hfirst.2
    obtain ⟨qs, w', hall, hthen, hleft', hrest⟩ := ih (page + 1) hleft fun k hk => by
      rw [Nat.add_right_comm]
      exact hlistable (k + 1) (Nat.succ_lt_succ hk)
    have hnext : page + 1 + front.length = page + (front.length + 1) := by omega
    rw [hnext] at hrest
    refine ⟨q :: qs, w', ?_, ?_, hleft', ?_⟩
    · rw [List.length_cons, List.range'_succ]
      exact .cons hasks hall
    · rw [hthen, hsent, List.append_assoc, List.singleton_append]
    · rw [List.length_cons, ← Nat.add_assoc, hstep, Run.outcome_map, hrest, Run.outcome_map,
        Run.outcome_map]
      rcases (listFrom c fullName pull fuel (page + (front.length + 1))).outcome w' with
        ⟨e | others, w''⟩ <;> simp [Except.map]

/-! ## Lists that are served in pages -/

/-- The entries of a list that stand on a page, counted from zero. -/
def pageIn (entries : List Json) (k : Nat) : List Json :=
  (entries.drop (pageSize * k)).take pageSize

/-- Is a list served in pages?  The replies hold one page after the other, up to the first one that
is not full. -/
def IsServed (entries : List Json) (replies : List Reply) : Prop :=
  ∀ k ≤ entries.length / pageSize, ∃ reply response, replies[k]? = some reply ∧
    reply.result = .ok response ∧ response.isError = false ∧
    response.json = .ok (.arr (pageIn entries k))

theorem pageIn_zero_of_short {entries : List Json} (h : entries.length < pageSize) :
    pageIn entries 0 = entries :=
  List.take_of_length_le (Nat.le_of_lt h)

theorem pageIn_succ (entries : List Json) (k : Nat) :
    pageIn entries (k + 1) = pageIn (entries.drop pageSize) k := by
  rw [pageIn, pageIn, List.drop_drop, Nat.mul_succ, Nat.add_comm]

theorem entriesIn?_of_json {reply : Reply} {response : Response} {entries : List Json}
    (hresult : reply.result = .ok response) (herror : response.isError = false)
    (hjson : response.json = .ok (.arr entries)) : entriesIn? reply = some entries := by
  have hpage : pageOf response = .ok entries := by
    rw [pageOf, bodyOf, hjson]
    rfl
  simp [entriesIn?, hresult, herror, hpage, Except.toOption]

namespace IsServed

variable {entries : List Json} {replies : List Reply}

/-- There is a first page. -/
theorem first (h : IsServed entries replies) :
    ∃ reply rest, replies = reply :: rest ∧ entriesIn? reply = some (pageIn entries 0) := by
  obtain ⟨reply, response, hreply, hresult, herror, hjson⟩ := h 0 (Nat.zero_le _)
  cases replies with
  | nil => cases hreply
  | cons first rest =>
    obtain rfl : first = reply := Option.some.inj hreply
    exact ⟨first, rest, rfl, entriesIn?_of_json hresult herror hjson⟩

/-- What comes after a full page is served as the rest of the list. -/
theorem rest {reply : Reply} (h : IsServed entries (reply :: replies))
    (hfull : pageSize ≤ entries.length) : IsServed (entries.drop pageSize) replies := by
  intro k hk
  rw [List.length_drop] at hk
  have hpages : entries.length / pageSize = (entries.length - pageSize) / pageSize + 1 :=
    Nat.div_eq_sub_div (by decide) hfull
  obtain ⟨reply, response, hreply, hresponse⟩ := h (k + 1) (by omega)
  rw [pageIn_succ] at hresponse
  exact ⟨reply, response, hreply, hresponse⟩

/-- There are at least as many replies as pages. -/
theorem lt_length (h : IsServed entries replies) : entries.length / pageSize < replies.length := by
  obtain ⟨reply, _, hreply, -⟩ := h _ (Nat.le_refl _)
  exact (List.getElem?_eq_some_iff.1 hreply).1

end IsServed

/-- A list that is served in pages is listed as it is, and exactly its pages are asked for. -/
theorem outcome_listFrom_served (hremote : c.remote = .codeHost) {fuel : Nat} :
    ∀ {entries : List Json} {page : Nat} {w : World}, IsServed entries w.hostReplies →
      (∀ k ≤ entries.length / pageSize, IsListable c fullName pull (page + k)) →
      entries.length / pageSize < fuel →
      ∃ qs w', List.Forall₂ (AsksFor c fullName pull)
          (List.range' page (entries.length / pageSize + 1)) qs ∧
        w'.sent = w.sent ++ qs ∧
        (listFrom c fullName pull fuel page).outcome w = (.ok entries, w') := by
  induction fuel with
  | zero => exact fun _ _ hfuel => absurd hfuel (Nat.not_lt_zero _)
  | succ fuel ih =>
    intro entries page w hserved hlistable hfuel
    obtain ⟨reply, rest, hreplies, hentries⟩ := hserved.first
    have hfirst : IsListable c fullName pull page := hlistable 0 (Nat.zero_le _)
    by_cases hshort : entries.length < pageSize
    · rw [pageIn_zero_of_short hshort] at hentries
      obtain ⟨q, w', hasks, hsent, hlist⟩ :=
        outcome_listFrom_short fuel hremote hfirst hreplies hentries hshort
      rw [Nat.div_eq_of_lt hshort]
      exact ⟨[q], w', .cons hasks .nil, hsent, hlist⟩
    · have hle : pageSize ≤ entries.length := Nat.le_of_not_lt hshort
      have hfull : ¬ (pageIn entries 0).length < pageSize := by
        simp only [pageIn, Nat.mul_zero, List.drop_zero, List.length_take]
        omega
      obtain ⟨q, w₁, hasks, hleft, hsent, hstep⟩ :=
        outcome_listFrom_full fuel hremote hfirst hreplies hentries hfull
      have hpages : entries.length / pageSize = (entries.length - pageSize) / pageSize + 1 :=
        Nat.div_eq_sub_div (by decide) hle
      rw [hreplies] at hserved
      obtain ⟨qs, w', hall, hthen, hlist⟩ := @ih (entries.drop pageSize) (page + 1) w₁
        (by rw [hleft]; exact hserved.rest hle)
        (fun k hk => by
          rw [List.length_drop] at hk
          rw [Nat.add_right_comm]
          exact hlistable (k + 1) (by omega))
        (by rw [List.length_drop]; omega)
      rw [List.length_drop] at hall
      refine ⟨q :: qs, w', ?_, by rw [hthen, hsent, List.append_assoc, List.singleton_append], ?_⟩
      · rw [hpages, List.range'_succ]
        exact .cons hasks hall
      · rw [hstep, Run.outcome_map, hlist]
        exact Prod.ext (congrArg Except.ok (List.take_append_drop _ _)) rfl

/-- A list that is served in pages is listed as it is. -/
theorem outcome_listFiles_served {entries : List Json} {w : World} (hremote : c.remote = .codeHost)
    (hserved : IsServed entries w.hostReplies)
    (hlistable : ∀ k ≤ entries.length / pageSize, IsListable c fullName pull (k + 1)) :
    ∃ qs w', List.Forall₂ (AsksFor c fullName pull)
        (List.range' 1 (entries.length / pageSize + 1)) qs ∧
      w'.sent = w.sent ++ qs ∧ (listFiles c fullName pull).outcome w = (.ok entries, w') := by
  rw [listFiles, Run.outcome_bind_ok (Run.outcome_get w)]
  refine outcome_listFrom_served hremote hserved (fun k hk => ?_) ?_
  · rw [Nat.add_comm]
    exact hlistable k hk
  · exact Nat.lt_succ_of_lt hserved.lt_length

end CodeHost

end InlineReview
