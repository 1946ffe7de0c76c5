import InlineReview.Proofs.Review.Comments
import InlineReview.Proofs.Review.Pages

/-!
# Refusals by the code host

A response of the code host is taken for a refusal if its status tells of an error.  The failure
then carries the status and the body of the response, unless the body is beyond reading.  What is
not taken for a refusal is read as JSON: a comment or a check run counts as posted if it can be
read so, whatever the status, and a list may still be refused because it is none.

* `CodeHost.isRefusedBy_of_error` — which error responses are refused with their status and body.
* `CodeHost.outcome_perform_answered` — the result of a call that is answered.
* `CodeHost.refuses_iff` — when the three calls of the code host fail with a refusal.
-/

namespace InlineReview

/-! ## What is shown of a response -/

/-- What a refusal shows of the body: null if it is empty, its value if it can be read as JSON, and
its text otherwise. -/
def Response.shown? (r : Response) : Option Json :=
  if r.body.isEmpty then some .null
  else
    match r.json with
    | .ok v => some v
    | .error _ => r.text.toOption.map .str

/-- Can the body of a refusal be shown? -/
def Response.isShowable (r : Response) : Bool := r.body.isEmpty || r.detail.isOk

/-- Is a result the refusal of a response, with its status and what is shown of its body? -/
def Response.IsRefusedBy {α : Type} (r : Response) (res : Except Failure α) : Prop :=
  ∃ fault, res = .error (.host fault) ∧ fault.status = r.status ∧ r.shown? = some fault.body

namespace Response

variable {α : Type} {r : Response}

theorem shown?_of_empty (h : r.body.isEmpty = true) : r.shown? = some .null := if_pos h

theorem shown?_of_detail {v : Json} (hbody : ¬ r.body.isEmpty = true) (h : r.detail = .ok v) :
    r.shown? = some v := by
  rw [shown?, if_neg hbody]
  unfold detail at h
  split at h
  · rename_i u hjson
    rw [hjson, ← Except.ok.inj h]
  · cases h
  · rename_i fault _ hjson
    rw [hjson]
    split at h
    · rename_i s htext
      rw [htext, ← Except.ok.inj h]
      rfl
    · cases h

/-- A body that can be read as JSON is not empty, and is shown as it is read. -/
theorem shown?_of_json {v : Json} (h : r.json = .ok v) : r.shown? = some v := by
  have hbody : ¬ r.body.isEmpty = true := by
    intro hempty
    rw [json, List.isEmpty_iff.1 hempty] at h
    cases h
  rw [shown?, if_neg hbody, h]

theorem not_isRefusedBy_ok (a : α) : ¬ r.IsRefusedBy (.ok a) := by
  rintro ⟨fault, h, -⟩
  cases h

end Response

namespace CodeHost

variable {α : Type} {r : Response}

theorem accept_of_showable (path : String) (herror : r.isError = true) (h : r.isShowable = true) :
    ∃ v, r.shown? = some v ∧ accept path r = .error (.host (.refused path r.status v)) := by
  rw [accept, if_neg (by simp [herror])]
  by_cases hempty : r.body.isEmpty = true
  · rw [if_pos hempty]
    exact ⟨.null, Response.shown?_of_empty hempty, rfl⟩
  · rw [Response.isShowable, Bool.or_eq_true, or_iff_right hempty] at h
    obtain ⟨v, hv⟩ := Run.exists_of_isOk h
    rw [if_neg hempty, hv]
    exact ⟨v, Response.shown?_of_detail hempty hv, rfl⟩

theorem accept_of_not_showable (path : String) (herror : r.isError = true)
    (h : r.isShowable = false) : ∃ fault, accept path r = .error (Failure.ofDetailFault fault) := by
  obtain ⟨hempty, hdetail⟩ := Bool.or_eq_false_iff.1 h
  rw [accept, if_neg (by simp [herror]), if_neg (by simp [hempty])]
  cases hcause : r.detail with
  | ok v =>
    rw [hcause] at hdetail
    cases hdetail
  | error fault => exact ⟨fault, rfl⟩

/-- A response that tells of an error is refused if its body can be shown. -/
theorem isRefusedBy_of_error {path : String} (f : Response → Except Failure α)
    (herror : r.isError = true) :
    r.IsRefusedBy (accept path r >>= f) ↔ r.isShowable = true := by
  cases hshow : r.isShowable with
  | true =>
    obtain ⟨v, hv, haccept⟩ := accept_of_showable path herror hshow
    rw [haccept]
    exact iff_of_true ⟨_, rfl, rfl, hv⟩ rfl
  | false =>
    obtain ⟨fault, haccept⟩ := accept_of_not_showable path herror hshow
    rw [haccept]
    refine iff_of_false ?_ (by simp)
    rintro ⟨_, h, -⟩
    cases fault <;> cases h

/-- What is drawn from the body alone is no refusal. -/
theorem bodyOf_eq_error {fault : HostFault} : bodyOf r ≠ .error (.host fault) := by
  rw [bodyOf]
  cases r.json with
  | ok v =>
    intro h
    cases h
  | error cause => cases cause <;> (intro h; cases h)

/-! ## Calls that are answered -/

/-- Is a call answered by a response?  Its request can be put together and has a scheme, and the
response comes for it. -/
def IsAnswered (call : Call α) (w : World) (r : Response) : Prop :=
  ∃ q, call.request = .ok q ∧ Base.hasKind q.url.toList = true ∧ (w.replyFor q).result = .ok r

/-- A call that is answered ends with what it draws from the response. -/
theorem outcome_perform_answered {call : Call α} {w : World} (h : IsAnswered call w r) :
    (call.perform.outcome w).1 = call.conclude r := by
  obtain ⟨q, hrequest, hkind, hresult⟩ := h
  rw [Call.outcome_perform_ok hrequest, Call.resultOf, hresult]
  exact if_pos hkind

theorem conclude_call {c : Client} {method : Method} {path : Except Failure String}
    {parameters : Option String} {body : Option Json} {conclude : Response → Except Failure α}
    {q : Request} (h : (call c method path parameters body conclude).request = .ok q) :
    ∃ p, path = .ok p ∧
      (call c method path parameters body conclude).conclude r = accept p r >>= conclude := by
  cases hpath : path with
  | error e =>
    rw [hpath] at h
    cases h
  | ok p => exact ⟨p, rfl, rfl⟩

/-- Is this a call that posts a comment or a check run? -/
inductive IsPosting (c : Client) (fullName : String) : Call Json → Prop
  | comment (pull : Int) (commit : Option String) (path : String) (position : Int)
      (body : String) :
      IsPosting c fullName (createComment c fullName pull commit path position body)
  | checkRun (run : CheckRun) : IsPosting c fullName (createCheckRun c fullName run)

theorem conclude_posting {c : Client} {fullName : String} {call : Call Json} {w : World}
    (hposting : IsPosting c fullName call) (h : IsAnswered call w r) :
    ∃ p, call.conclude r = accept p r >>= bodyOf := by
  obtain ⟨q, hrequest, -⟩ := h
  cases hposting <;> obtain ⟨p, -, hconclude⟩ := conclude_call (r := r) hrequest <;>
    exact ⟨p, hconclude⟩

/-- A comment or a check run is refused if the status of the answer tells of an error and the body
can be shown, and counts as posted if the status tells of none and the body can be read. -/
theorem posting_refused_iff {c : Client} {fullName : String} {call : Call Json} {w : World}
    (hposting : IsPosting c fullName call) (h : IsAnswered call w r) :
    (r.IsRefusedBy (call.perform.outcome w).1 ↔ r.isError = true ∧ r.isShowable = true) ∧
      ((call.perform.outcome w).1.isOk = true ↔ r.isError = false ∧ r.json.isOk = true) := by
  obtain ⟨p, hconclude⟩ := conclude_posting hposting h
  rw [outcome_perform_answered h, hconclude]
  cases herror : r.isError with
  | true =>
    refine ⟨by simp [isRefusedBy_of_error bodyOf herror], iff_of_false ?_ (by simp)⟩
    cases haccept : accept p r with
    | error e => exact Bool.false_ne_true
    | ok a => simp [(accept_eq_ok haccept).1] at herror
  | false =>
    have hbody : (accept p r >>= bodyOf) = bodyOf r := by
      rw [accept_of_not_error herror]
      rfl
    rw [hbody]
    refine ⟨iff_of_false ?_ (by simp), ?_⟩
    · rintro ⟨fault, hfault, -⟩
      exact bodyOf_eq_error hfault
    · rw [bodyOf]
      cases r.json <;> simp [Except.mapError, Except.isOk, Except.toBool]

/-! ## Pages that are refused -/

/-- A page that is not refused for its status is refused if its body is no list. -/
theorem pageOf_eq_error {fault : HostFault} :
    pageOf r = .error (.host fault) ↔
      ∃ v, r.json = .ok v ∧ v.arr? = none ∧ fault = .notListing r.status v := by
  rw [pageOf, bodyOf]
  cases hjson : r.json with
  | error cause =>
    refine iff_of_false (fun h => ?_) (by simp)
    cases cause <;> cases h
  | ok v =>
    cases v with
    | arr entries =>
      refine iff_of_false (fun h => ?_) (by simp [Json.arr?])
      cases h
    | _ =>
      constructor
      · intro h
        exact ⟨_, rfl, rfl, (Failure.host.inj (Except.error.inj h)).symm⟩
      · rintro ⟨u, hu, -, hfault⟩
        rw [hfault, ← Except.ok.inj hu]
        rfl

/-- A request that cannot be put together is not refused. -/
theorem request_ne_host {c : Client} {method : Method} {path : String} {parameters : Option String}
    {body : Option Json} {fault : HostFault} :
    c.request method path parameters body ≠ .error (.host fault) := by
  intro h
  rcases Client.fault_of_request h with ⟨_, h⟩ | ⟨_, h⟩ | ⟨_, h⟩ | ⟨_, h⟩ <;> cases h

theorem resourcePath_ne_host {fullName rest : String} {fault : HostFault} :
    resourcePath fullName rest ≠ .error (.host fault) := by
  unfold resourcePath splitName
  simp only [bind, Except.bind, pure, Except.pure]
  split <;> rename_i hsplit <;> split at hsplit <;> cases hsplit <;> (intro h; cases h)

/-- Does a failure, if it is a refusal, tell of an error status or of a body that is no list? -/
def IsOfPage (res : Except Failure α) : Prop :=
  ∀ fault, res = .error (.host fault) → 400 ≤ fault.status ∨ fault.body.arr? = none

theorem isOfPage_ok (a : α) : IsOfPage (.ok a) := by
  intro fault h
  cases h

section Pages

variable {c : Client} {fullName : String} {pull : Int} {page : Nat} {w : World}

theorem isOfPage_accept {path : String} (r : Response) : IsOfPage (accept path r >>= pageOf) := by
  intro fault h
  cases herror : r.isError with
  | false =>
    rw [accept_of_not_error herror] at h
    obtain ⟨v, -, harr, rfl⟩ := pageOf_eq_error.1 h
    exact .inr harr
  | true =>
    have hstatus : 400 ≤ r.status := by simpa [Response.isError] using herror
    cases hshow : r.isShowable with
    | true =>
      obtain ⟨v, -, haccept⟩ := accept_of_showable path herror hshow
      rw [haccept] at h
      rw [← Failure.host.inj (Except.error.inj h)]
      exact .inl hstatus
    | false =>
      obtain ⟨cause, haccept⟩ := accept_of_not_showable path herror hshow
      rw [haccept] at h
      cases cause <;> cases h

theorem request_listPage_ne_host {fault : HostFault} :
    (listPage c fullName pull page).request ≠ .error (.host fault) := by
  rw [listPage, request_call]
  cases hpath : resourcePath fullName s!"pulls/{pull}/files" with
  | error e => exact fun h => resourcePath_ne_host (hpath.trans (congrArg _ (Except.error.inj h)))
  | ok path => exact request_ne_host

theorem isOfPage_perform (c : Client) (fullName : String) (pull : Int) (page : Nat) (w : World) :
    IsOfPage ((listPage c fullName pull page).perform.outcome w).1 := by
  intro fault h
  cases hrequest : (listPage c fullName pull page).request with
  | error e =>
    rw [Call.outcome_perform_error hrequest] at h
    rw [Except.error.inj h] at hrequest
    exact absurd hrequest request_listPage_ne_host
  | ok q =>
    rw [Call.outcome_perform_ok hrequest] at h
    unfold Call.resultOf at h
    cases hresult : (w.replyFor q).result with
    | error broken =>
      rw [hresult] at h
      cases h
    | ok r =>
      obtain ⟨path, -, hconclude⟩ := conclude_call (r := r) hrequest
      simp only [hresult] at h
      split at h
      · exact isOfPage_accept r fault (hconclude.symm.trans h)
      · cases h

/-- Listing is only refused for an error status or for a body that is no list. -/
theorem isOfPage_listFrom (fuel page : Nat) (w : World) :
    IsOfPage ((listFrom c fullName pull fuel page).outcome w).1 := by
  induction fuel generalizing page w with
  | zero => exact isOfPage_ok []
  | succ fuel ih =>
    have hpage := isOfPage_perform c fullName pull page w
    rw [listFrom, Run.outcome_bind]
    rcases hfirst : (listPage c fullName pull page).perform.outcome w with ⟨e | entries, w₁⟩
    · rw [hfirst] at hpage
      exact fun fault h => hpage fault (congrArg _ (Except.error.inj h))
    · dsimp only
      split
      · exact isOfPage_ok entries
      · have hnext := ih (page + 1) w₁
        rw [Run.outcome_bind]
        rcases hrest : (listFrom c fullName pull fuel (page + 1)).outcome w₁ with ⟨e | others, w₂⟩
        · rw [hrest] at hnext
          exact fun fault h => hnext fault (congrArg _ (Except.error.inj h))
        · exact isOfPage_ok (entries ++ others)

theorem isRefusedBy_map {β : Type} (f : α → β) (res : Except Failure α) :
    r.IsRefusedBy (res.map f) ↔ r.IsRefusedBy res := by
  cases res with
  | ok a => exact iff_of_false (r.not_isRefusedBy_ok _) (r.not_isRefusedBy_ok _)
  | error e =>
    unfold Response.IsRefusedBy
    simp [Except.map]

/-- A list is not refused for what comes after a response that lists entries. -/
theorem not_isRefusedBy_of_isOfPage {res : Except Failure α} {entries : List Json}
    (herror : r.isError = false) (hjson : r.json = .ok (.arr entries)) (h : IsOfPage res) :
    ¬ r.IsRefusedBy res := by
  rintro ⟨fault, rfl, hstatus, hshown⟩
  rcases h fault rfl with hle | hnone
  · rw [hstatus] at hle
    simp [Response.isError, hle] at herror
  · rw [Response.shown?_of_json hjson] at hshown
    rw [← Option.some.inj hshown] at hnone
    cases hnone

/-- What fails on a page fails there. -/
theorem outcome_listFrom_error {fuel : Nat} {e : Failure}
    (h : ((listPage c fullName pull page).perform.outcome w).1 = .error e) :
    ((listFrom c fullName pull (fuel + 1) page).outcome w).1 = .error e := by
  rw [listFrom, Run.outcome_bind]
  rcases hpage : (listPage c fullName pull page).perform.outcome w with ⟨res, w₁⟩
  rw [hpage] at h
  obtain rfl : res = .error e := h
  rfl

theorem exists_eq_error_of_isError (path : String) (f : Response → Except Failure α)
    (herror : r.isError = true) : ∃ e, accept path r >>= f = .error e := by
  cases haccept : accept path r with
  | error e => exact ⟨e, rfl⟩
  | ok a => simp [(accept_eq_ok haccept).1] at herror

/-- A page that is answered is refused for an error status whose body can be shown, and otherwise if
its body is a value that is no list.  What is refused after it has another status or body. -/
theorem isRefusedBy_listFrom (fuel : Nat) (h : IsAnswered (listPage c fullName pull page) w r) :
    r.IsRefusedBy ((listFrom c fullName pull (fuel + 1) page).outcome w).1 ↔
      (r.isError = true ∧ r.isShowable = true) ∨
        (r.isError = false ∧ ∃ v, r.json = .ok v ∧ v.arr? = none) := by
  have hpage := outcome_perform_answered h
  obtain ⟨q, hrequest, -⟩ := h
  obtain ⟨path, -, hconclude⟩ := conclude_call (r := r) hrequest
  replace hpage := hpage.trans hconclude
  cases herror : r.isError with
  | true =>
    obtain ⟨e, he⟩ := exists_eq_error_of_isError path pageOf herror
    rw [outcome_listFrom_error (hpage.trans he), ← he, isRefusedBy_of_error pageOf herror]
    simp
  | false =>
    replace hpage : ((listPage c fullName pull page).perform.outcome w).1 = pageOf r := by
      rw [hpage, accept_of_not_error herror]
      rfl
    by_cases hlist : ∃ v, r.json = .ok v ∧ v.arr? = none
    · obtain ⟨v, hjson, harr⟩ := hlist
      have hrefused := pageOf_eq_error.2 ⟨v, hjson, harr, rfl⟩
      rw [outcome_listFrom_error (hpage.trans hrefused)]
      exact iff_of_true ⟨_, rfl, rfl, Response.shown?_of_json hjson⟩ (.inr ⟨rfl, v, hjson, harr⟩)
    · refine iff_of_false ?_ (by simpa using hlist)
      cases hjson : r.json with
      | error cause =>
        have hfails : pageOf r = .error (Failure.ofBodyFault cause) := by
          rw [pageOf, bodyOf, hjson]
          rfl
        rw [outcome_listFrom_error (hpage.trans hfails)]
        rintro ⟨fault, hfault, -⟩
        cases cause <;> cases hfault
      | ok v =>
        cases v with
        | arr entries =>
          exact not_isRefusedBy_of_isOfPage herror hjson (isOfPage_listFrom (fuel + 1) page w)
        | _ => exact absurd ⟨_, hjson, rfl⟩ hlist

/-- Full pages are listed one after the other, and then what comes after them. -/
theorem outcome_listFrom_front {front : List Reply} {pages : List (List Json)} (fuel : Nat)
    (hremote : c.remote = .codeHost)
    (hfront : List.Forall₂ (fun reply entries => entriesIn? reply = some entries ∧
      ¬ entries.length < pageSize) front pages) :
    ∀ (page : Nat) {w : World} {replies : List Reply}, w.hostReplies = front ++ replies →
      (∀ k < front.length, IsListable c fullName pull (page + k)) →
      ∃ w', w'.hostReplies = replies ∧
        (listFrom c fullName pull (fuel + front.length) page).outcome w =
          ((pages.flatten ++ ·) <$> listFrom c fullName pull fuel (page + front.length)).outcome
            w' := by
  intro page w replies hreplies hlistable
  obtain ⟨_, w', -, -, hleft, hlist⟩ :=
    outcome_listFrom_pages fuel hremote hfront page hreplies hlistable
  exact ⟨w', hleft, hlist⟩

end Pages

/-! ## The calls of the code host -/

/-- A call to the code host is answered by the next response. -/
theorem isAnswered_of_replies {call : Call α} {w : World} {q : Request} {reply : Reply}
    {replies : List Reply} (hrequest : call.request = .ok q)
    (hkind : Base.hasKind q.url.toList = true) (hremote : q.remote = .codeHost)
    (hreplies : w.hostReplies = reply :: replies) (hresult : reply.result = .ok r) :
    IsAnswered call w r := by
  have hreply : w.replyFor q = reply := by simp [World.replyFor, World.replies, hremote, hreplies]
  exact ⟨q, hrequest, hkind, by rw [hreply, hresult]⟩

theorem isError_eq_false : r.isError = false ↔ r.status < 400 := by simp [Response.isError]

/-- A comment or a check run that is answered, and a page that is answered after full pages, are
refused with the status and the body of the answer if the status tells of an error and the body can
be shown; a page is refused as well if its body is a value that is no list.  Any other status counts
as a success: a comment or a check run is taken for posted if the body can be read, and entries are
listed. -/
theorem refuses_iff {c : Client} {fullName : String} (hremote : c.remote = .codeHost) :
    (∀ {call : Call Json} {w : World} {r : Response}, IsPosting c fullName call →
      IsAnswered call w r →
      (r.IsRefusedBy (call.perform.outcome w).1 ↔ 400 ≤ r.status ∧ r.isShowable = true) ∧
        ((call.perform.outcome w).1.isOk = true ↔ r.status < 400 ∧ r.json.isOk = true)) ∧
    ∀ {pull : Int} {front : List Reply} {pages : List (List Json)} {reply : Reply}
      {replies : List Reply} {r : Response} {w : World},
      List.Forall₂ (fun reply entries => entriesIn? reply = some entries ∧
        ¬ entries.length < pageSize) front pages →
      w.hostReplies = front ++ reply :: replies →
      (∀ k ≤ front.length, IsListable c fullName pull (k + 1)) → reply.result = .ok r →
      (r.IsRefusedBy ((listFiles c fullName pull).outcome w).1 ↔
        (400 ≤ r.status ∧ r.isShowable = true) ∨
          (r.status < 400 ∧ ∃ v, r.json = .ok v ∧ v.arr? = none)) ∧
        ∀ entries, r.status < 400 → r.json = .ok (.arr entries) → entries.length < pageSize →
          ((listFiles c fullName pull).outcome w).1 = .ok (pages.flatten ++ entries) := by
  constructor
  · intro call w r hposting hanswered
    have hposted := posting_refused_iff hposting hanswered
    rw [isError_eq_false] at hposted
    simpa [Response.isError] using hposted
  · intro pull front pages reply replies r w hfront hreplies hlistable hresult
    have hfuel : w.hostReplies.length + 1 = replies.length + 1 + 1 + front.length := by
      rw [hreplies, List.length_append, List.length_cons]
      omega
    obtain ⟨w', hleft, hlist⟩ := outcome_listFrom_front (replies.length + 1 + 1) hremote hfront 1
      hreplies fun k hk => by
        rw [Nat.add_comm]
        exact hlistable k (Nat.le_of_lt hk)
    have hpage : IsListable c fullName pull (1 + front.length) := by
      rw [Nat.add_comm]
      exact hlistable _ (Nat.le_refl _)
    have hfiles : ((listFiles c fullName pull).outcome w).1 =
        ((listFrom c fullName pull (replies.length + 1 + 1) (1 + front.length)).outcome w').1.map
          (pages.flatten ++ ·) := by
      rw [listFiles, Run.outcome_bind_ok (Run.outcome_get w), hfuel, hlist, Run.outcome_map]
    rw [hfiles]
    constructor
    · obtain ⟨q, hrequest, hkind⟩ := hpage
      have hanswered := isAnswered_of_replies hrequest hkind (purpose_listing hremote hrequest).1
        hleft hresult
      have hrefused := isRefusedBy_listFrom (replies.length + 1) hanswered
      rw [isError_eq_false] at hrefused
      rw [isRefusedBy_map, hrefused]
      simp [Response.isError]
    · intro entries hstatus hjson hshort
      obtain ⟨_, _, -, -, hlast⟩ := outcome_listFrom_short (replies.length + 1) hremote hpage hleft
        (entriesIn?_of_json hresult (isError_eq_false.2 hstatus) hjson) hshort
      rw [hlast]
      rfl

/-! ## An answer that is refused, and one that is not -/

/-- An answer with an object for a body. -/
def sampleResponse (status : Nat) : Response where
  status
  mediaType := none
  body := Text.Utf8.encode "\x7b\"message\":\"m\"\x7d".toList

/-- A world in which the code host gives that answer. -/
def answeringWorld (status : Nat) : World where
  hostReplies := [{ result := .ok (sampleResponse status) }]

/-- A call that publishes a check run. -/
def sampleCall : Call Json :=
  createCheckRun Reviewer.sampleReviewer.host "o/r"
    { name := "n", commit := some "s", title := "t", summary := "u", text := none }

theorem isAnswered_sampleCall (status : Nat) :
    IsAnswered sampleCall (answeringWorld status) (sampleResponse status) := by
  have hkind : sampleCall.request.toOption.any (fun q => Base.hasKind q.url.toList) = true := by
    decide +kernel
  cases hrequest : sampleCall.request with
  | error e =>
    rw [hrequest] at hkind
    cases hkind
  | ok q =>
    rw [hrequest] at hkind
    have hremote : q.remote = .codeHost := (purpose_checkRun rfl hrequest).1
    exact isAnswered_of_replies hrequest hkind hremote rfl rfl

/-- A resource that is not found. -/
theorem refuses_notFound :
    Reviewer.sampleReviewer.host.remote = .codeHost ∧
      IsPosting Reviewer.sampleReviewer.host "o/r" sampleCall ∧
      IsAnswered sampleCall (answeringWorld 404) (sampleResponse 404) ∧
      (sampleResponse 404).IsRefusedBy (sampleCall.perform.outcome (answeringWorld 404)).1 ∧
      (∀ k ≤ 0, IsListable Reviewer.sampleReviewer.host "o/r" 1 (k + 1)) ∧
      (sampleResponse 404).IsRefusedBy
        ((listFiles Reviewer.sampleReviewer.host "o/r" 1).outcome (answeringWorld 404)).1 := by
  have hshow : (sampleResponse 404).isShowable = true := by decide +kernel
  have hposting : IsPosting Reviewer.sampleReviewer.host "o/r" sampleCall := .checkRun _
  have hlistable : ∀ k ≤ 0, IsListable Reviewer.sampleReviewer.host "o/r" 1 (k + 1) :=
    fun k hk => Reviewer.isListable_sample (Nat.le_succ_of_le hk)
  have hiff := @refuses_iff Reviewer.sampleReviewer.host "o/r" rfl
  refine ⟨rfl, hposting, isAnswered_sampleCall 404,
    (hiff.1 hposting (isAnswered_sampleCall 404)).1.2 ⟨by decide, hshow⟩, hlistable, ?_⟩
  exact (hiff.2 (w := answeringWorld 404) .nil rfl hlistable rfl).1.2 (.inl ⟨by decide, hshow⟩)

/-- A check run counts as published although the repository has moved, and no failure tells of the
answer. -/
theorem posts_movedPermanently :
    (sampleResponse 301).status = 301 ∧
      IsAnswered sampleCall (answeringWorld 301) (sampleResponse 301) ∧
      (sampleCall.perform.outcome (answeringWorld 301)).1.isOk = true ∧
      ¬ (sampleResponse 301).IsRefusedBy (sampleCall.perform.outcome (answeringWorld 301)).1 := by
  have hread : (sampleResponse 301).json.isOk = true := by decide +kernel
  have hposting : IsPosting Reviewer.sampleReviewer.host "o/r" sampleCall := .checkRun _
  have hposted := posting_refused_iff hposting (isAnswered_sampleCall 301)
  refine ⟨rfl, isAnswered_sampleCall 301, hposted.2.2 ⟨rfl, hread⟩, fun hrefused => ?_⟩
  exact absurd (hposted.1.1 hrefused).1 (by decide)

end CodeHost

end InlineReview
