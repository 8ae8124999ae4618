import Lpt.Cloud.Run

/-!
# What a device that becomes `CONNECTED` has agreed with the server

Two pieces of code bring a bound device to `CONNECTED`: the case `CONNECTING` of the daemon,
and `swCloudBind`.  Both are meant to have a new connection on which `AUTH` and, last of
all, `UPDEV` were answered with `OK`.  The daemon looks at every result.  `swCloudBind` does
not look at what becomes of its `UPDEV`, and that is the only way the law can fail.
-/

namespace SwCloud

open CLib Effect Trans

variable {P : CldProtocol}

/-! ## Answers, in their order -/

/-- The descriptor and the command of a request, if this is the event of its being answered
with `OK`. -/
def Event.answered (P : CldProtocol) : Event → Option (ℤ × ℕ)
  | .received (.reply hdr _) fd ret mem =>
      if 0 ≤ ret ∧ ReplyOk P mem then some (fd, hdr.cmd) else none
  | _ => none

/-- The requests answered with `OK`, newest first. -/
def answered (P : CldProtocol) (es : List Event) : List (ℤ × ℕ) :=
  es.filterMap (Event.answered P)

/-- On the way from `w` to `w'` no socket was opened, and exactly the requests `as` were
answered with `OK`, newest first. -/
def Answers (w w' : World P) (as : List (ℤ × ℕ)) : Prop :=
  ∃ es, w'.trace = es ++ w.trace ∧ (∀ e ∈ es, e.isSocket = false) ∧ answered P es = as

/-! ## The law -/

/-- The commands that have to be answered with `OK` before a step of this kind may end
`CONNECTED`, last one first. -/
def agreement (P : CldProtocol) : Action → List ℕ
  | .bind _ _ _ => [P.cldcmdUpdev, P.cldcmdBindev, P.cldcmdAuth]
  | _ => [P.cldcmdUpdev, P.cldcmdAuth]

/-- On the connection opened in the step `m`, which is the one in use afterwards, exactly
the right requests were answered with `OK`, in the right order. -/
def Agreed (m : Move (World P) Action) : Prop :=
  ∃ later earlier, m.pre.since m.post = later ++ .socket m.post.cloud.fd :: earlier ∧
    m.post.cloud.fd ≠ -1 ∧ (∀ e ∈ later, e.isSocket = false) ∧
    answered P later = (agreement P m.label).map fun c => (m.post.cloud.fd, c)

/-- The step `m` brings a bound device to `CONNECTED`.  A device that was bound and `CONNECTED`
before is not brought there again: the daemon sets the status in the case `CONNECTING`, and
`swCloudBind` returns at once when the device is bound and not `BROKEN`. -/
def BecomesConnected (m : Move (World P) Action) : Prop :=
  m.post.cloud.status = .connected ∧ m.post.cloud.binded = true ∧
    ¬ (m.pre.cloud.status = .connected ∧ m.pre.cloud.binded = true)

/-- Becoming `CONNECTED` means an agreement, and a step that loses its `UPDEV` does not end
`CONNECTED`. -/
def ConnectedMeansAgreed (m : Move (World P) Action) : Prop :=
  (BecomesConnected m → Agreed m) ∧
    (.lost ∈ verdicts P P.cldcmdUpdev (m.pre.since m.post) → m.post.cloud.status ≠ .connected)

/-- The step `m` is a `swCloudBind` whose `BINDEV` is answered with `OK` and whose `UPDEV` is
not. -/
def UpdateIgnored (m : Move (World P) Action) : Prop :=
  (∃ user password devicename, m.label = .bind user password devicename) ∧
    .accepted ∈ verdicts P P.cldcmdBindev (m.pre.since m.post) ∧
    .accepted ∉ verdicts P P.cldcmdUpdev (m.pre.since m.post)

section Parts

variable {w w' w₁ : World P} {r : CommonStatus} {as as' : List (ℤ × ℕ)}

theorem answered_append (es es' : List Event) :
    answered P (es ++ es') = answered P es ++ answered P es' :=
  List.filterMap_append

/-- An answer with `OK` is a verdict. -/
theorem accepted_of_answered {es : List Event} {fd : ℤ} {c : ℕ} (h : (fd, c) ∈ answered P es) :
    .accepted ∈ verdicts P c es := by
  obtain ⟨e, he, hans⟩ := List.mem_filterMap.1 h
  refine List.mem_filterMap.2 ⟨e, he, ?_⟩
  cases e with
  | received rc fd' ret mem =>
    cases rc with
    | control => cases hans
    | reply hdr payload =>
      change (if 0 ≤ ret ∧ ReplyOk P mem then some (fd', hdr.cmd) else none) = some (fd, c) at hans
      split_ifs at hans with hok
      rw [Option.some.injEq, Prod.mk.injEq] at hans
      change (if hdr.cmd = c then some (if ret < 0 then Verdict.lost
        else if ReplyOk P mem then .accepted else .rejected) else none) = _
      rw [if_pos hans.2, if_neg (not_lt.2 hok.1), if_pos hok.2]
  | _ => cases hans

theorem Answers.trans (h : Answers w w₁ as) (h' : Answers w₁ w' as') :
    Answers w w' (as' ++ as) := by
  obtain ⟨es, htr, hns, hes⟩ := h
  obtain ⟨es', htr', hns', hes'⟩ := h'
  refine ⟨es' ++ es, by rw [htr', htr, List.append_assoc], ?_, ?_⟩
  · intro e he
    exact (List.mem_append.1 he).elim (hns' e) (hns e)
  · rw [answered_append, hes, hes']

theorem Answers.of_eq (h : w'.trace = w.trace) : Answers w w' [] :=
  ⟨[], h, List.forall_mem_nil _, rfl⟩

/-- A request that has succeeded was answered with `OK`. -/
theorem Requests.answers {cmd : ℕ} {t : CStr} (h : Requests cmd t w .succeed w') :
    Answers w w' [(w.cloud.fd, cmd)] := by
  obtain ⟨rep, hx, hr⟩ := h
  cases hx with
  | tooLarge _ => cases hr
  | writeFailed _ _ => cases hr
  | noReply _ _ => cases hr
  | @answered hdr payload mem ret hc hret _ =>
    refine ⟨[_, _], rfl, by simp [Event.isSocket], ?_⟩
    have hans : Event.answered P (.received (.reply hdr payload) w.cloud.fd ret mem) =
        some (w.cloud.fd, cmd) := by
      show (if 0 ≤ ret ∧ ReplyOk P mem then some (w.cloud.fd, hdr.cmd) else none) = _
      rw [if_pos ⟨hret, hr.2.1 rfl⟩, hc.cmd_eq]
    unfold answered
    rw [List.filterMap_cons, hans]
    rfl

theorem Updates.answers (h : Updates w .succeed w') :
    Answers w w' [(w.cloud.fd, P.cldcmdUpdev)] := by
  obtain ⟨w₁, hq, htr⟩ := h.events_trace
  obtain ⟨es, htr', hns, hes⟩ := hq.answers
  exact ⟨es, htr.trans htr', hns, hes⟩

/-- A connect and what was answered on the new connection make an agreement. -/
theorem Connects.agreed {a : Action} {v : World P} {es : List Event} (hv : v.trace = es ++ w.trace)
    (hc : Connects v .succeed w₁) (ha : Answers w₁ w' as) (hfd : w'.cloud.fd = w₁.cloud.fd)
    (has : as = (agreement P a).map fun c => (w₁.cloud.fd, c)) : Agreed ⟨w, a, w'⟩ := by
  obtain ⟨later, htr, hns, hlater⟩ := ha
  have hne := hc.effect.fd_ne rfl
  cases hc with
  | @connected fd n _ _ _ =>
    have hsince : w.since w' =
        (later ++ [.greeting fd n, .connect fd 0]) ++ .socket fd :: es := by
      apply World.since_eq
      rw [htr]
      change later ++ (.greeting fd n :: .connect fd 0 :: .socket fd :: v.trace) = _
      rw [hv]
      simp only [List.append_assoc, List.cons_append, List.nil_append]
    refine ⟨later ++ [.greeting fd n, .connect fd 0], es, ?_, ?_, ?_, ?_⟩
    · rw [hfd]
      exact hsince
    · rw [hfd]
      exact hne
    · intro e he
      rcases List.mem_append.1 he with h | h
      · exact hns e h
      · simp only [List.mem_cons, List.not_mem_nil, or_false] at h
        rcases h with rfl | rfl <;> rfl
    · rw [answered_append, hlater, has, hfd]
      exact List.append_nil _

/-- An agreement contains an `UPDEV` answered with `OK`. -/
theorem Agreed.updated {m : Move (World P) Action} (h : Agreed m) :
    .accepted ∈ verdicts P P.cldcmdUpdev (m.pre.since m.post) := by
  obtain ⟨later, earlier, hsince, -, -, hans⟩ := h
  have hmem : (m.post.cloud.fd, P.cldcmdUpdev) ∈ answered P later := by
    rw [hans]
    unfold agreement
    split <;> exact List.mem_cons_self ..
  rw [hsince, verdicts_append]
  exact List.mem_append_left _ (accepted_of_answered hmem)

end Parts

/-! ## Steps -/

section Steps

variable {w w' w₁ : World P} {a : Action} {r : CommonStatus}

/-- A lost `UPDEV` is one of the requests of the step. -/
theorem Asks.exists_lost {fd : ℤ} {qs : List Asked} (ha : Asks w w' fd qs)
    (hl : .lost ∈ verdicts P P.cldcmdUpdev (w.since w')) :
    ∃ q ∈ qs, q.cmd = P.cldcmdUpdev ∧ q.result.verdict = .lost :=
  (ha.since.mem_verdicts P.cmds_ne.2.2.2.2).1 hl

theorem Polls.asks (hp : Polls w w') :
    ∃ qs, Asks w w' w.cloud.fd qs ∧ ∀ q ∈ qs, q.cmd = P.cldcmdUbindev := by
  cases hp with
  | quiet => exact ⟨[], .of_eq rfl, List.forall_mem_nil _⟩
  | served _ hc =>
    obtain ⟨qs, ha, hq, -⟩ := hc.asks
    exact ⟨qs, ha, hq⟩
  | @failed w₁ _ _ _ hc =>
    obtain ⟨qs, ha, hq, -⟩ := hc.asks
    exact ⟨qs, ha.trans (w₁.disconnect_asks w.cloud.fd), hq⟩

/-- Polling loses no `UPDEV`. -/
theorem Polls.not_lost (hp : Polls w w') {qs : List Asked} (hqs : Asks w₁ w w.cloud.fd qs)
    (hnl : ∀ q ∈ qs, q.result.verdict ≠ .lost) :
    .lost ∉ verdicts P P.cldcmdUpdev (w₁.since w') := by
  intro hl
  obtain ⟨qs', ha, hcmd⟩ := hp.asks
  obtain ⟨q, hq, hupd, hlost⟩ := (hqs.trans ha).exists_lost hl
  rcases List.mem_append.1 hq with hq | hq
  · exact P.cmds_ne.2.2.1.2.1 ((hcmd q hq).symm.trans hupd)
  · exact hnl q hq hlost

/-- The daemon does not end `CONNECTED` when it loses its `UPDEV`. -/
theorem DaemonStep.lost_ne_connected (hd : DaemonStep w w')
    (hl : .lost ∈ verdicts P P.cldcmdUpdev (w.since w')) : w'.cloud.status ≠ .connected := by
  cases hd with
  | initIdle _ _ hp =>
    exact absurd hl (hp.not_lost (.of_eq rfl) (List.forall_mem_nil _))
  | initBound _ _ => intro h; cases h
  | connectFailed _ _ _ => intro h; cases h
  | connectUnbound _ _ _ => intro h; cases h
  | authFailed _ _ _ _ _ => exact failStatus_ne_connected _
  | updateFailed _ _ _ _ _ _ => exact failStatus_ne_connected _
  | @connected w₁ w₂ w₃ _ _ hc ha hu =>
    have huq := hu.asks
    rw [Requests.cloud_eq ha] at huq
    obtain ⟨q, hq, -, hlost⟩ := (((hc.asks _).trans ha.asks).trans huq).exists_lost hl
    simp only [List.mem_append, List.mem_singleton, List.not_mem_nil, or_false] at hq
    rcases hq with rfl | rfl <;> cases hlost
  | dropUnbound _ _ => intro h; cases h
  | upToDate _ _ _ hp =>
    exact absurd hl (hp.not_lost (.of_eq rfl) (List.forall_mem_nil _))
  | refreshFailed _ _ _ _ _ _ => exact failStatus_ne_connected _
  | @refreshed w₁ _ _ _ _ _ hu hp =>
    have hfd : w₁.cloud.fd = w.taken.cloud.fd := by rw [hu.cloud_eq]
    have huq : Asks w w₁ w.taken.cloud.fd _ := hu.asks
    rw [← hfd] at huq
    refine absurd hl (hp.not_lost huq ?_)
    intro q hq
    rw [List.mem_singleton.1 hq]
    intro h
    cases h
  | gaveUp hs _ =>
    rw [World.cloud_disconnect]
    intro h
    cases hs.symm.trans h
  | waiting hs _ _ _ =>
    rw [World.cloud_paced, World.cloud_disconnect]
    intro h
    cases hs.symm.trans h
  | retry _ _ _ _ => intro h; cases h
  | broken hs =>
    rw [World.cloud_disconnect]
    intro h
    cases hs.symm.trans h
  | restart _ => intro h; cases h

theorem DaemonStep.connectedMeansAgreed (hd : DaemonStep w w') :
    ConnectedMeansAgreed ⟨w, .daemon, w'⟩ := by
  refine ⟨?_, hd.lost_ne_connected⟩
  rintro ⟨hs', hb', hn⟩
  cases hd.connected_bound hs' hb' with
  | polled hs hb _ => exact absurd ⟨hs, hb⟩ hn
  | refreshed hs hb _ _ => exact absurd ⟨hs, hb⟩ hn
  | @fresh w₁ w₂ w₃ hc ha hu hw =>
    subst hw
    have hfd : w₂.cloud.fd = w₁.cloud.fd := by rw [Requests.cloud_eq ha]
    have hfd' : (w₃.setStatus .connected).cloud.fd = w₁.cloud.fd := by
      rw [World.cloud_setStatus, hu.cloud_eq, hfd]
    refine hc.agreed (List.nil_append _).symm
      ((Requests.answers ha).trans (hu.answers.trans (Answers.of_eq rfl))) hfd' ?_
    rw [hfd]
    rfl

/-- A step that neither becomes `CONNECTED` nor asks for an `UPDEV` keeps the law, and is not
the one that breaks it. -/
theorem connectedMeansAgreed_iff_of_calm (hn : ¬ BecomesConnected ⟨w, a, w'⟩) {fd : ℤ}
    {qs : List Asked} (ha : Asks w w' fd qs)
    (hq : ∀ q ∈ qs, q.cmd ≠ P.cldcmdUpdev ∧ (q.cmd = P.cldcmdBindev → q.result ≠ .succeed)) :
    ConnectedMeansAgreed ⟨w, a, w'⟩ ↔ ¬ UpdateIgnored ⟨w, a, w'⟩ := by
  refine iff_of_true ⟨fun h => absurd h hn, ?_⟩ ?_
  · intro hl
    obtain ⟨q, hmem, hcmd, -⟩ := ha.exists_lost hl
    exact absurd hcmd (hq q hmem).1
  · rintro ⟨-, hacc, -⟩
    obtain ⟨q, hmem, hcmd, hv⟩ := (ha.since.mem_verdicts P.cmds_ne.2.2.2.1.2).1 hacc
    exact (hq q hmem).2 hcmd (CommonStatus.eq_succeed hv)

theorem RegUsrStep.asks {account username password : CStr}
    (hr : RegUsrStep account username password w r w') :
    ∃ fd qs, Asks w w' fd qs ∧ ∀ q ∈ qs, q.cmd = P.cldcmdRegusr := by
  cases hr with
  | noConnection _ hc _ => exact ⟨0, [], hc.asks 0, List.forall_mem_nil _⟩
  | offline _ hc hq =>
    obtain ⟨code, hq⟩ := hq
    refine ⟨_, _, (hc.asks _).trans hq.asks, ?_⟩
    intro q hmem
    rw [List.append_nil, List.mem_singleton] at hmem
    rw [hmem]
  | online _ _ hq =>
    obtain ⟨code, hq⟩ := hq
    refine ⟨_, _, hq.asks, ?_⟩
    intro q hmem
    rw [List.mem_singleton.1 hmem]
  | dropped _ _ hq =>
    obtain ⟨code, hq⟩ := hq
    refine ⟨_, _, hq.asks.trans (World.disconnect_asks _ _), ?_⟩
    intro q hmem
    rw [List.nil_append, List.mem_singleton] at hmem
    rw [hmem]

theorem UBindStep.asks (hu : UBindStep w r w') :
    ∃ fd qs, Asks w w' fd qs ∧ ∀ q ∈ qs, q.cmd = P.cldcmdAuth ∨ q.cmd = P.cldcmdUbindev := by
  cases hu with
  | notBound _ => exact ⟨0, [], .of_eq rfl, List.forall_mem_nil _⟩
  | noConnection _ _ hc _ =>
    exact ⟨0, [], (hc.asks 0).trans (World.setStatus_disconnect_asks _ _ 0),
      List.forall_mem_nil _⟩
  | authFailed _ _ hc ha _ =>
    refine ⟨_, _, ((hc.asks _).trans ha.asks).trans (World.setStatus_disconnect_asks _ _ _), ?_⟩
    simp
  | offline _ _ hc ha ho =>
    have hoq := ho.asks
    rw [Requests.cloud_eq ha] at hoq
    refine ⟨_, _, ((hc.asks _).trans ha.asks).trans hoq, ?_⟩
    simp
  | online _ _ ho =>
    refine ⟨_, _, ho.asks, ?_⟩
    simp

/-- The requests of a bind up to its `AUTH`. -/
theorem Connects.asks_auth {user password devicename : CStr} {w₂ : World P}
    (hc : Connects w.disconnect .succeed w₁)
    (ha : Auths (w₁.credited user password devicename) r w₂) :
    ∃ t, Asks w w₂ w₂.cloud.fd [⟨P.cldcmdAuth, t, r⟩] := by
  have hq := ha.asks
  rw [← Requests.cloud_eq ha] at hq
  have hconn : Asks w (w₁.credited user password devicename) w₂.cloud.fd [] :=
    ((w.disconnect_asks _).trans (hc.asks _)).trans (.of_eq rfl)
  exact ⟨_, hconn.trans hq⟩

theorem not_becomesConnected (hs : w'.cloud.status = w.cloud.status)
    (hb : w'.cloud.binded = w.cloud.binded) : ¬ BecomesConnected ⟨w, a, w'⟩ := by
  rintro ⟨hs', hb', hn⟩
  exact hn ⟨hs.symm.trans hs', hb.symm.trans hb'⟩

/-- The requests of a bind up to its `UPDEV`. -/
theorem Connects.asks_bound {user password devicename code : CStr} {w₂ w₃ w₄ : World P}
    (hc : Connects w.disconnect .succeed w₁)
    (ha : Auths (w₁.credited user password devicename) .succeed w₂)
    (hbi : Requests P.cldcmdBindev (lines [w₂.cloud.devinfo.id.str, code]) w₂ .succeed w₃)
    (hu : Updates w₃ r w₄) :
    ∃ t, Asks w w₄.bound w₂.cloud.fd
      [⟨P.cldcmdUpdev, updateText w₃.cloud.devinfo, r⟩,
        ⟨P.cldcmdBindev, lines [w₂.cloud.devinfo.id.str, code], .succeed⟩,
        ⟨P.cldcmdAuth, t, .succeed⟩] := by
  obtain ⟨t, hq⟩ := hc.asks_auth ha
  have hfd : w₃.cloud.fd = w₂.cloud.fd := by rw [hbi.cloud_eq]
  have huq := hu.asks
  rw [hfd] at huq
  exact ⟨t, ((hq.trans hbi.asks).trans huq).trans
    (show Asks w₄ w₄.bound w₂.cloud.fd [] from .of_eq rfl)⟩

/-- A bind whose requests are all answered with `OK` has agreed with the server. -/
theorem Connects.agreed_bound {user password devicename code : CStr} {w₂ w₃ w₄ : World P}
    {u p d : Option CStr} (hc : Connects w.disconnect .succeed w₁)
    (ha : Auths (w₁.credited user password devicename) .succeed w₂)
    (hbi : Requests P.cldcmdBindev (lines [w₂.cloud.devinfo.id.str, code]) w₂ .succeed w₃)
    (hu : Updates w₃ .succeed w₄) : Agreed ⟨w, .bind u p d, w₄.bound⟩ := by
  have hfd : w₂.cloud.fd = w₁.cloud.fd := by rw [Requests.cloud_eq ha, World.cloud_credited]
  have hfd₃ : w₃.cloud.fd = w₁.cloud.fd := by rw [hbi.cloud_eq, hfd]
  have hfd' : w₄.bound.cloud.fd = w₁.cloud.fd := by
    rw [World.cloud_bound, hu.cloud_eq, hfd₃]
  obtain ⟨es, htr, -, -⟩ := w.disconnect_events 0
  have hstored : Answers w₁ (w₁.credited user password devicename) [] := .of_eq rfl
  have hbound : Answers w₄ w₄.bound [] := .of_eq rfl
  have hans := ((hstored.trans (Requests.answers ha)).trans hbi.answers).trans
    (hu.answers.trans hbound)
  apply hc.agreed htr hans hfd'
  rw [hfd, hfd₃]
  rfl

/-- A registration does not bring a bound device to `CONNECTED`. -/
theorem RegUsrStep.not_becomesConnected {account username password : CStr}
    (hr : RegUsrStep account username password w r w') : ¬ BecomesConnected ⟨w, a, w'⟩ := by
  cases hr with
  | noConnection _ hc _ =>
    exact SwCloud.not_becomesConnected hc.binded_status.2 hc.binded_status.1
  | offline _ hc hq =>
    obtain ⟨code, hq⟩ := hq
    apply SwCloud.not_becomesConnected
    · rw [hq.cloud_eq, hc.binded_status.2]
    · rw [hq.cloud_eq, hc.binded_status.1]
  | online _ _ hq =>
    obtain ⟨code, hq⟩ := hq
    apply SwCloud.not_becomesConnected
    all_goals rw [hq.cloud_eq]
  | dropped _ _ _ =>
    rintro ⟨hs', -⟩
    cases hs'

/-- Nor does an unbind. -/
theorem UBindStep.not_becomesConnected (hu : UBindStep w r w') :
    ¬ BecomesConnected ⟨w, a, w'⟩ := by
  cases hu with
  | notBound _ => exact SwCloud.not_becomesConnected rfl rfl
  | noConnection _ _ _ _ =>
    rintro ⟨hs', -⟩
    rw [World.cloud_disconnect] at hs'
    cases hs'
  | authFailed _ _ _ _ _ =>
    rintro ⟨hs', -⟩
    rw [World.cloud_disconnect] at hs'
    cases hs'
  | offline _ _ _ _ ho => exact fun h => ho.status_ne h.1
  | online _ _ ho => exact fun h => ho.status_ne h.1

/-- A bind that the server has accepted keeps the law exactly if its `UPDEV` was accepted too. -/
theorem Connects.bound_agreed_iff {user password devicename code : CStr} {w₂ w₃ w₄ : World P}
    (hg : w.cloud.binded = true → w.cloud.status = .broken)
    (hc : Connects w.disconnect .succeed w₁)
    (ha : Auths (w₁.credited user password devicename) .succeed w₂)
    (hbi : Requests P.cldcmdBindev (lines [w₂.cloud.devinfo.id.str, code]) w₂ .succeed w₃)
    (hu : Updates w₃ r w₄) :
    ConnectedMeansAgreed ⟨w, .bind (some user) (some password) (some devicename), w₄.bound⟩ ↔
      ¬ UpdateIgnored ⟨w, .bind (some user) (some password) (some devicename), w₄.bound⟩ := by
  have hne := P.cmds_ne
  have hbecomes : BecomesConnected ⟨w, .bind (some user) (some password) (some devicename),
      w₄.bound⟩ := by
    refine ⟨rfl, rfl, ?_⟩
    rintro ⟨hs, hb⟩
    cases (hg hb).symm.trans hs
  obtain ⟨t, hasks⟩ := hc.asks_bound ha hbi hu
  have hacc : .accepted ∈ verdicts P P.cldcmdBindev (w.since w₄.bound) :=
    (hasks.since.mem_verdicts hne.2.2.2.1.2).2
      ⟨_, List.mem_cons_of_mem _ (List.mem_cons_self ..), rfl, rfl⟩
  by_cases hr : r = .succeed
  · subst hr
    have hagreed : Agreed ⟨w, .bind (some user) (some password) (some devicename), w₄.bound⟩ :=
      hc.agreed_bound ha hbi hu
    refine iff_of_true ⟨fun _ => hagreed, ?_⟩ fun h => h.2.2 hagreed.updated
    intro hl
    obtain ⟨q, hmem, hcmd, hlost⟩ := hasks.exists_lost hl
    simp only [List.mem_cons, List.not_mem_nil, or_false] at hmem
    rcases hmem with rfl | rfl | rfl <;> cases hlost
  · have hupd : .accepted ∉ verdicts P P.cldcmdUpdev (w.since w₄.bound) := by
      rw [hasks.since.mem_verdicts hne.2.2.2.2]
      rintro ⟨q, hmem, hcmd, hv⟩
      simp only [List.mem_cons, List.not_mem_nil, or_false] at hmem
      rcases hmem with rfl | rfl | rfl
      · exact hr (CommonStatus.eq_succeed hv)
      · exact hne.2.2.2.1.1 hcmd
      · exact hne.2.1.2.2.1 hcmd
    refine iff_of_false ?_ (not_not.2 ⟨⟨_, _, _, rfl⟩, hacc, hupd⟩)
    exact fun hlaw => hupd (hlaw.1 hbecomes).updated

/-- `swCloudBind` keeps the law exactly if it does not ignore a failed `UPDEV`. -/
theorem BindStep.agreed_iff {user password devicename : CStr}
    (hb : BindStep user password devicename w r w') :
    ConnectedMeansAgreed ⟨w, .bind (some user) (some password) (some devicename), w'⟩ ↔
      ¬ UpdateIgnored ⟨w, .bind (some user) (some password) (some devicename), w'⟩ := by
  have hne := P.cmds_ne
  cases hb with
  | refused _ _ =>
    exact connectedMeansAgreed_iff_of_calm (not_becomesConnected rfl rfl)
      (show Asks w w 0 [] from .of_eq rfl) (List.forall_mem_nil _)
  | noConnection _ hc _ =>
    refine connectedMeansAgreed_iff_of_calm (not_becomesConnected ?_ ?_)
      (((w.disconnect_asks 0).trans (hc.asks 0)).trans (World.disconnect_asks _ 0))
      (List.forall_mem_nil _)
    all_goals rw [World.cloud_disconnect, hc.effect.cloud_eq, World.cloud_disconnect]
  | authFailed _ hc ha _ =>
    obtain ⟨t, hq⟩ := hc.asks_auth ha
    refine connectedMeansAgreed_iff_of_calm (not_becomesConnected ?_ ?_)
      (hq.trans (World.disconnect_asks _ _)) ?_
    · rw [World.cloud_disconnect, Requests.cloud_eq ha, World.cloud_credited, hc.effect.cloud_eq,
        World.cloud_disconnect]
    · rw [World.cloud_disconnect, Requests.cloud_eq ha, World.cloud_credited, hc.effect.cloud_eq,
        World.cloud_disconnect]
    · simp only [List.nil_append, List.mem_singleton, forall_eq]
      exact ⟨hne.2.1.2.2.1, fun h => absurd h hne.2.1.2.1⟩
  | bindFailed _ hc ha hbi hr =>
    obtain ⟨t, hq⟩ := hc.asks_auth ha
    obtain ⟨code, hbi⟩ := hbi
    refine connectedMeansAgreed_iff_of_calm (not_becomesConnected ?_ ?_)
      ((hq.trans hbi.asks).trans (World.disconnect_asks _ _)) ?_
    · rw [World.cloud_disconnect, hbi.cloud_eq, Requests.cloud_eq ha, World.cloud_credited,
        hc.effect.cloud_eq, World.cloud_disconnect]
    · rw [World.cloud_disconnect, hbi.cloud_eq, Requests.cloud_eq ha, World.cloud_credited,
        hc.effect.cloud_eq, World.cloud_disconnect]
    · intro q hmem
      simp only [List.nil_append, List.singleton_append, List.mem_cons, List.not_mem_nil,
        or_false] at hmem
      rcases hmem with rfl | rfl
      · exact ⟨hne.2.2.2.1.1, fun _ => hr⟩
      · exact ⟨hne.2.1.2.2.1, fun h => absurd h hne.2.1.2.1⟩
  | bound hg hc ha hbi hu =>
    obtain ⟨code, hbi⟩ := hbi
    exact hc.bound_agreed_iff hg ha hbi hu

/-- **What becoming `CONNECTED` means.**  Every step, from any state and with any outcome of the
network, keeps the law if and only if it is not a `swCloudBind` that ignores what has become
of its `UPDEV`. -/
theorem connectedMeansAgreed_iff (hs : Step w a w') :
    ConnectedMeansAgreed ⟨w, a, w'⟩ ↔ ¬ UpdateIgnored ⟨w, a, w'⟩ := by
  have hcalm : ∀ {a : Action} {w' : World P}, ¬ BecomesConnected ⟨w, a, w'⟩ →
      w'.trace = w.trace →
      (ConnectedMeansAgreed ⟨w, a, w'⟩ ↔ ¬ UpdateIgnored ⟨w, a, w'⟩) := fun hn htr =>
    connectedMeansAgreed_iff_of_calm hn (show Asks w _ 0 [] from .of_eq htr)
      (List.forall_mem_nil _)
  have hne := P.cmds_ne
  cases hs.moves with
  | daemon hd =>
    apply iff_of_true hd.connectedMeansAgreed
    rintro ⟨⟨_, _, _, hl⟩, -⟩
    cases hl
  | notice _ _ => exact hcalm (not_becomesConnected rfl rfl) rfl
  | restart _ =>
    refine hcalm ?_ rfl
    rintro ⟨hs', -⟩
    cases hs'
  | ignored _ _ => exact hcalm (not_becomesConnected rfl rfl) rfl
  | regUsr hr =>
    obtain ⟨fd, qs, ha, hq⟩ := hr.asks
    apply connectedMeansAgreed_iff_of_calm hr.not_becomesConnected ha
    intro q hmem
    rw [hq q hmem]
    exact ⟨hne.1.2.2.2.1, fun h => absurd h hne.1.2.2.1⟩
  | bind hb => exact hb.agreed_iff
  | ubind hu =>
    obtain ⟨fd, qs, ha, hq⟩ := hu.asks
    apply connectedMeansAgreed_iff_of_calm hu.not_becomesConnected ha
    intro q hmem
    rcases hq q hmem with hcmd | hcmd
    · rw [hcmd]
      exact ⟨hne.2.1.2.2.1, fun h => absurd h hne.2.1.2.1⟩
    · rw [hcmd]
      exact ⟨hne.2.2.1.2.1, fun h => absurd h hne.2.2.1.1⟩
  | ping =>
    refine hcalm ?_ ?_
    · unfold World.pinged
      split_ifs
      · exact not_becomesConnected rfl rfl
      · rintro ⟨hs', -⟩
        cases hs'
    · unfold World.pinged
      split_ifs <;> rfl

end Steps

/-- A step to which the law applies: the first connection of a bound device. -/
theorem daemon_agreed : ∃ m : Move (World sampleProtocol) Action,
    BecomesConnected m ∧ Agreed m := by
  obtain ⟨h, w, hr, m, hmem, hl, hpre, hpost, hb⟩ :=
    exists_run (sampleConf (CStr.lit "u") (CStr.lit "p")) sampleInfo
      [(.daemon, []), (.daemon, connectedInputs 3)]
      (fun r => ∃ m ∈ r.1.head?, m.label = .daemon ∧ m.pre.cloud.status = .connecting ∧
        m.post.cloud.status = .connected ∧ m.post.cloud.binded = true) (by decide +kernel)
  obtain ⟨earlier, rfl⟩ := List.head?_eq_some_iff.1 hmem
  have hbecomes : BecomesConnected m := by
    refine ⟨hpost, hb, ?_⟩
    rintro ⟨hs, -⟩
    cases hpre.symm.trans hs
  have hlaw : ConnectedMeansAgreed m := by
    have hstep := (Path.split (show Path Step _ ([] ++ m :: earlier) w from hr)).2
    apply (connectedMeansAgreed_iff hstep).2
    rintro ⟨⟨_, _, _, hbind⟩, -⟩
    cases hl.symm.trans hbind
  exact ⟨m, hbecomes, hlaw.1 hbecomes⟩

/-- An unbound device is bound, and the connection breaks when its `UPDEV` is sent: the status
is `CONNECTED` all the same. -/
theorem bind_ignores_update : ¬ ∀ (w w' : World sampleProtocol) (a : Action), Step w a w' →
    ConnectedMeansAgreed ⟨w, a, w'⟩ := by
  intro hall
  obtain ⟨h, w, hr, m, hmem, hpost, hlost⟩ :=
    exists_run (sampleConf (CStr.lit "") (CStr.lit "")) sampleInfo
      [(.bind (some (CStr.lit "u")) (some (CStr.lit "p")) (some (CStr.lit "n")),
        connectInputs 3 ++ replyInputs (CStr.lit "OK") ++ .bytes (List.replicate 36 0) ::
          replyInputs (CStr.lit "OK") ++ [.bytes [], .writes [.err]])]
      (fun r => ∃ m ∈ r.1, m.post.cloud.status = .connected ∧ .lost ∈ verdicts sampleProtocol
        sampleProtocol.cldcmdUpdev (m.pre.since m.post)) (by decide +kernel)
  exact (hall _ _ _ (hr.mem_step hmem).1).2 hlost hpost

end SwCloud
