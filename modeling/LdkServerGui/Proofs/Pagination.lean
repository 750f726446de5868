import LdkServerGui.Proofs.Handlers
import LdkServerGui.Proofs.Requests

/-!
# Paging through the payments

`fetch_payments` sends `payments_page_token` as the page to list; the payments arm stores the
page and its `next_page_token`; Refresh clears the token before fetching, Load More fetches with
it. Nothing else writes the token: `disconnect` clears the payments but not the token.

Refresh clears the token and every other operation changes it only by delivering pages, so a
disconnect keeps it (`page_tokens_from_server`). Over every run the token is thus none or the
next-page token of the last page delivered in the run, whatever disconnects came after that page
(`lastPageToken` ignores them); and every `list_payments` request asks for no page or for a
next-page token the server sent in a page delivered earlier in the run. So the app never makes up
a page token, but after a reconnect, Load More (or the History tab) asks the new connection for a
page of the old one.

The proof goes one operation at a time: what each operation does to the token
(`exec_pageToken`) and which payments requests it adds (`exec_newPages`).
-/

namespace LdkServerGui
open LdkServerApp

/-! ### The token over a run -/

/-- The token as an event leaves it: a delivered page of payments sets its next-page token. -/
def pageStep (tok : Option PageToken) : Event → Option PageToken
  | .delivered ⟨.payments, _, .ok v⟩ => v.nextPageToken
  | _ => tok

/-- The next-page token of the last page of payments delivered in `tr`; a disconnect does not
reset it. -/
def lastPageToken (tr : List Event) : Option PageToken := tr.foldl pageStep none

theorem pageStep_cases (e : Event) :
    (∀ tok, pageStep tok e = tok) ∨ ∃ x, ∀ tok, pageStep tok e = x := by
  rcases e with _ | ⟨k, i, o⟩ | _ | _
  · exact .inl fun _ => rfl
  · cases k <;> cases o <;> first | exact .inl fun _ => rfl | exact .inr ⟨_, fun _ => rfl⟩
  · exact .inl fun _ => rfl
  · exact .inl fun _ => rfl

theorem foldl_pageStep_follows (es : List Event) {tok last : Option PageToken}
    (h : tok = none ∨ tok = last) :
    es.foldl pageStep tok = none ∨ es.foldl pageStep tok = es.foldl pageStep last := by
  induction es generalizing tok last with
  | nil => exact h
  | cons e es ih =>
    rcases pageStep_cases e with he | ⟨x, he⟩
    · exact ih (by rwa [he, he])
    · exact ih (.inr (by rw [he, he]))

theorem foldl_pageStep_eq_some (es : List Event) (acc : Option PageToken) {tok : PageToken}
    (h : es.foldl pageStep acc = some tok) :
    acc = some tok ∨ ∃ i v, Event.delivered ⟨.payments, i, .ok v⟩ ∈ es ∧ v.nextPageToken = some tok := by
  induction es generalizing acc with
  | nil => exact .inl h
  | cons e es ih =>
    rcases ih _ h with h' | ⟨i, v, hm, hv⟩
    · rcases e with _ | ⟨k, i, o⟩ | _ | _
      · exact .inl h'
      · cases k <;> cases o <;>
          first | exact .inl h' | exact .inr ⟨_, _, List.mem_cons_self _ _, h'⟩
      · exact .inl h'
      · exact .inl h'
    · exact .inr ⟨i, v, List.mem_cons_of_mem _ hm, hv⟩

theorem lastPageToken_eq_some {tr : List Event} {tok : PageToken} (h : lastPageToken tr = some tok) :
    ∃ i v, Event.delivered ⟨.payments, i, .ok v⟩ ∈ tr ∧ v.nextPageToken = some tok :=
  (foldl_pageStep_eq_some tr none h).resolve_left nofun

/-! ### What each operation does to the token -/

theorem armView_pageToken : ArmView (·.paymentsPageToken) pageStep where
  arm k i o s := by cases o <;> cases k <;> rfl
  status _ _ _ := rfl
  connection _ _ _ _ := rfl
  disconnect _ := rfl
  published _ _ := rfl
  drained _ := rfl

theorem exec_refreshPayments_pageToken (app : LdkServerApp) :
    (exec .refreshPayments app).1.state.paymentsPageToken = none :=
  armView_pageToken.trigger _ _ _

theorem exec_pageToken {op : Op} (hr : op ≠ .refreshPayments) (app : LdkServerApp) :
    (exec op app).1.state.paymentsPageToken = (exec op app).2.foldl pageStep app.state.paymentsPageToken := by
  cases hq : op.quiet
  · exact armView_pageToken.exec hq hr app
  · cases op <;> simp only [Op.quiet, Bool.false_eq_true] at hq <;>
      simp only [exec, loadConfigFile, loadPastedConfig, saveConfig, saveConfigAs] <;> repeat' split
    all_goals rfl

/-! ### Which payments requests each operation adds -/

@[simp] theorem Runtime.map_request_modifyCell (rt : Runtime) (k k' : TaskKey) (i : Nat) (f) :
    ((rt.modifyCell k i f).calls k').map (·.request) = (rt.calls k').map (·.request) := by
  by_cases h : k' = k
  · subst h
    simp only [Runtime.modifyCell, Function.update_same]
    exact List.map_modify_eq (fun c : Call _ => { c with cell := f c.cell }) (·.request) (fun _ => rfl) _ _
  · rw [Runtime.calls_modifyCell_of_ne _ _ _ h]

/-- The payments requests of `rt'` are those of `rt` followed by requests whose page token
satisfies `P`. -/
def NewPages (P : Option PageToken → Prop) (rt rt' : Runtime) : Prop :=
  ∃ l, (rt'.calls .payments).map (·.request) = (rt.calls .payments).map (·.request) ++ l ∧
    ∀ r ∈ l, P (ListPaymentsRequest.pageToken r)

namespace NewPages
variable {P Q : Option PageToken → Prop} {rt rt' : Runtime}

theorem of_map_eq (h : (rt'.calls .payments).map (·.request) = (rt.calls .payments).map (·.request)) :
    NewPages P rt rt' :=
  ⟨[], by rw [h, List.append_nil], nofun⟩

theorem refl (rt : Runtime) : NewPages P rt rt := of_map_eq rfl

theorem mono (h : NewPages P rt rt') (hPQ : ∀ t, P t → Q t) : NewPages Q rt rt' :=
  let ⟨l, hl, hP⟩ := h
  ⟨l, hl, fun r hr => hPQ _ (hP r hr)⟩

end NewPages

theorem trigger_calls_payments {k : TaskKey} (hk : k ≠ .payments)
    (request : AppState → Except String (Request k)) (app : LdkServerApp) :
    (trigger k request app).rt.calls .payments = app.rt.calls .payments :=
  (@trigger_frame .payments k request app (.inl (Ne.symm hk))).2

theorem triggerOf_newPages (k : TaskKey) (app : LdkServerApp) :
    NewPages (· = app.state.paymentsPageToken) app.rt (triggerOf k app).rt := by
  by_cases hk : k = .payments
  · subst hk
    simp only [triggerOf, fetchPayments, trigger]
    split_ifs
    · exact .refl _
    · split
      · exact .refl _
      · exact ⟨[{ pageToken := app.state.paymentsPageToken }], by simp, by simp⟩
  · obtain ⟨request, h⟩ := triggerOf_eq_trigger k
    rw [h]
    exact .of_map_eq (by rw [trigger_calls_payments hk])

theorem pollAll_map_request (ks : List TaskKey) (app : LdkServerApp) :
    ((pollAll ks app).1.rt.calls .payments).map (·.request) = (app.rt.calls .payments).map (·.request) := by
  induction ks generalizing app with
  | nil => rfl
  | cons k ks ih =>
    rw [pollAll_cons_fst, ih]
    rcases pollTask_cases k app with ⟨-, hp⟩ | ⟨-, -, -, hp⟩ | ⟨t, o, -, -, hp⟩ <;> rw [hp]
    rw [(@handleOutcome_frame .payments k (app.take k t.rx) o fun _ => .inl (by decide)).2, take_rt,
      Runtime.map_request_modifyCell]

theorem exec_newPages (op : Op) (app : LdkServerApp) :
    NewPages (fun t => t = none ∨ t = app.state.paymentsPageToken) app.rt (exec op app).1.rt := by
  cases hq : op.quiet
  · cases op <;> simp only [Op.quiet, Bool.true_eq_false] at hq
    case trigger k => exact (triggerOf_newPages k app).mono fun _ => .inr
    case refreshPayments =>
      exact (triggerOf_newPages .payments
        (app.modifyState fun s => { s with paymentsPageToken := none })).mono fun _ => .inl
    case connect target certRead newClient =>
      rcases connect_cases target certRead newClient app with ⟨m, hc⟩ | ⟨e, hc⟩ | ⟨c, hc⟩ <;>
        simp only [exec, hc]
      · exact .refl _
      · exact .refl _
      · exact .of_map_eq (by rw [trigger_calls_payments (by decide), trigger_calls_payments (by decide),
          trigger_calls_payments (by decide)]; rfl)
    case disconnect => exact .refl _
    case poll => exact .of_map_eq (pollAll_map_request _ app)
    case complete k i o =>
      simp only [exec, LdkServerApp.complete]
      split
      · exact .of_map_eq (Runtime.map_request_modifyCell _ _ _ _ _)
      · exact .refl _
  · exact .of_map_eq (by rw [(exec_quiet hq app).1])

/-! ### Over a run -/

/-- The page token follows the last page delivered, and every payments request asks for a page
the server announced. -/
structure PageInv (app : LdkServerApp) (tr : List Event) : Prop where
  token : app.state.paymentsPageToken = none ∨ app.state.paymentsPageToken = lastPageToken tr
  requests : ∀ r ∈ (app.rt.calls .payments).map (·.request), ∀ tok,
    ListPaymentsRequest.pageToken r = some tok →
      ∃ i v, Event.delivered ⟨.payments, i, .ok v⟩ ∈ tr ∧ v.nextPageToken = some tok

theorem PageInv.exec {app : LdkServerApp} {tr : List Event} (h : PageInv app tr) (op : Op) :
    PageInv (LdkServerGui.exec op app).1 (tr ++ (LdkServerGui.exec op app).2) := by
  refine ⟨?_, fun r hr tok htok => ?_⟩
  · by_cases hr : op = .refreshPayments
    · subst hr; exact .inl (exec_refreshPayments_pageToken app)
    · rw [exec_pageToken hr, lastPageToken, List.foldl_append]
      exact foldl_pageStep_follows _ h.token
  · obtain ⟨l, hl, hP⟩ := exec_newPages op app
    rw [hl, List.mem_append] at hr
    rcases hr with hr | hr
    · obtain ⟨i, v, hm, hv⟩ := h.requests r hr tok htok
      exact ⟨i, v, List.mem_append_left _ hm, hv⟩
    · rcases hP r hr with h0 | h0 <;> rw [h0] at htok
      · cases htok
      · rcases h.token with h1 | h1 <;> rw [h1] at htok
        · cases htok
        · obtain ⟨i, v, hm, hv⟩ := lastPageToken_eq_some htok
          exact ⟨i, v, List.mem_append_left _ hm, hv⟩

theorem pageInv_of_reach {ok : AppState → Op → Prop} {app : LdkServerApp} {tr : List Event}
    (h : Reach ok app tr) : PageInv app tr := by
  induction h with
  | init found => exact ⟨.inl (by cases found <;> rfl), nofun⟩
  | step op _ _ ih => exact ih.exec op

theorem page_tokens_from_server {ok : AppState → Op → Prop} {app : LdkServerApp} {tr : List Event}
    (h : Reach ok app tr) :
    (∀ app' : LdkServerApp,
      (exec .refreshPayments app').1.state.paymentsPageToken = none ∧
      ∀ op, op ≠ .refreshPayments →
        (exec op app').1.state.paymentsPageToken = (exec op app').2.foldl pageStep app'.state.paymentsPageToken) ∧
    (app.state.paymentsPageToken = none ∨ app.state.paymentsPageToken = lastPageToken tr) ∧
      ∀ c ∈ app.rt.calls .payments, ∀ tok, ListPaymentsRequest.pageToken c.request = some tok →
        ∃ i v, Event.delivered ⟨.payments, i, .ok v⟩ ∈ tr ∧ v.nextPageToken = some tok :=
  have hi := pageInv_of_reach h
  ⟨fun app' => ⟨exec_refreshPayments_pageToken app', fun _ hr => exec_pageToken hr app'⟩, hi.token,
    fun _ hc => hi.requests _ (List.mem_map_of_mem _ hc)⟩

/-- Connect, list the payments (the page says more follow), disconnect, connect again, Load
More. -/
def reconnectLoadMore : List Op :=
  [.editSettings "localhost:3002" "key" "", .connect .wasm32 (.ok []) (.ok ⟨0⟩), .trigger .payments,
    .complete .payments 0 (.ok ⟨[], some ⟨"p2", 1⟩⟩), .poll, .disconnect,
    .connect .wasm32 (.ok []) (.ok ⟨1⟩), .trigger .payments]

theorem page_tokens_from_server_reconnect :
    Reach anyOp (run reconnectLoadMore (.new none)).1 ([] ++ (run reconnectLoadMore (.new none)).2) ∧
    ((∀ app' : LdkServerApp,
      (exec .refreshPayments app').1.state.paymentsPageToken = none ∧
      ∀ op, op ≠ .refreshPayments →
        (exec op app').1.state.paymentsPageToken = (exec op app').2.foldl pageStep app'.state.paymentsPageToken) ∧
    ((run reconnectLoadMore (.new none)).1.state.paymentsPageToken = none ∨
        (run reconnectLoadMore (.new none)).1.state.paymentsPageToken =
          lastPageToken ([] ++ (run reconnectLoadMore (.new none)).2)) ∧
      ∀ c ∈ (run reconnectLoadMore (.new none)).1.rt.calls .payments, ∀ tok,
        ListPaymentsRequest.pageToken c.request = some tok →
          ∃ i v, Event.delivered ⟨.payments, i, .ok v⟩ ∈ [] ++ (run reconnectLoadMore (.new none)).2 ∧
            v.nextPageToken = some tok) ∧
    ((run reconnectLoadMore (.new none)).1.rt.calls .payments).map
      (fun c => ListPaymentsRequest.pageToken c.request) = [none, some ⟨"p2", 1⟩] :=
  have h := (Reach.init none).run reconnectLoadMore fun _ _ _ => trivial
  ⟨h, page_tokens_from_server h, by decide⟩

end LdkServerGui
