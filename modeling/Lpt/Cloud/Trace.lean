import Lpt.Cloud.Api

/-!
# What the record shows

The laws of this development speak about packets: which requests were answered with
`OK` on the connection in use, how the requests of a step ended, what was sent.
This file reads all of that off the record of a world, and says for each part of a
step what it adds to the record.

* `World.oks` — the texts of the requests answered with `OK` on the connection in use,
  newest first.
* `verdicts` — how the requests of a piece of the record ended.
* `Writes R` — the record has grown, and every packet written in the meantime meets
  the condition `R`.
-/

namespace SwCloud

open CLib Effect

variable {P : CldProtocol}

/-! ## Reading the record -/

/-- The event is a call of `socket`. -/
def Event.isSocket : Event → Bool
  | .socket _ => true
  | _ => false

/-- The part of the record that belongs to the connection in use. -/
def conn (tr : List Event) : List Event := tr.takeWhile fun e => !e.isSocket

/-- What the newest call of `socket` returned. -/
def lastSocket : List Event → Option ℤ
  | [] => none
  | .socket fd :: _ => some fd
  | _ :: es => lastSocket es

/-- The descriptor and the text of a request of the command `cmd`, if this is the event
of its being answered with `OK`. -/
def Event.okReply (P : CldProtocol) (cmd : ℕ) : Event → Option (ℤ × CStr)
  | .received (.reply hdr payload) fd ret mem =>
      if hdr.cmd = cmd ∧ 0 ≤ ret ∧ ReplyOk P mem then some (fd, CStr.read payload) else none
  | _ => none

/-- The requests of the command `cmd` answered with `OK`, newest first. -/
def okReplies (P : CldProtocol) (cmd : ℕ) (es : List Event) : List (ℤ × CStr) :=
  es.filterMap (Event.okReply P cmd)

/-- The requests of the command `cmd` answered with `OK` on the connection in use. -/
def World.oks (w : World P) (cmd : ℕ) : List (ℤ × CStr) := okReplies P cmd (conn w.trace)

/-- How a request ended. -/
inductive Verdict where
  /-- It was not sent, or no reply could be read. -/
  | lost
  /-- A reply was read that is not `OK`. -/
  | rejected
  /-- It was answered with `OK`. -/
  | accepted
  deriving DecidableEq

/-- The verdict behind the result of a request. -/
def CommonStatus.verdict : CommonStatus → Verdict
  | .cloudNetwork => .lost
  | .succeed => .accepted
  | _ => .rejected

@[simp] theorem CommonStatus.verdict_succeed : CommonStatus.succeed.verdict = .accepted := rfl

@[simp] theorem CommonStatus.verdict_cloudNetwork :
    CommonStatus.cloudNetwork.verdict = .lost := rfl

/-- How a request of the command `cmd` ended, if this is the event of its end. -/
def Event.verdict (P : CldProtocol) (cmd : ℕ) : Event → Option Verdict
  | .tooLarge c => if c = cmd then some .lost else none
  | .wrote _ hdr _ ret => if hdr.cmd = cmd ∧ ret ≠ 0 then some .lost else none
  | .received (.reply hdr _) _ ret mem =>
      if hdr.cmd = cmd then
        some (if ret < 0 then .lost else if ReplyOk P mem then .accepted else .rejected)
      else none
  | _ => none

/-- How the requests of the command `cmd` ended, newest first. -/
def verdicts (P : CldProtocol) (cmd : ℕ) (es : List Event) : List Verdict :=
  es.filterMap (Event.verdict P cmd)

/-- What has been added to the record on the way from `w` to `w'`. -/
def World.since (w w' : World P) : List Event :=
  w'.trace.take (w'.trace.length - w.trace.length)

/-- The record has grown from `tr` to `tr'`, and each packet written in the meantime
meets the condition `R` on what was recorded before it, the descriptor, the header and
the payload. -/
inductive Writes (R : List Event → ℤ → CldHdr → List UInt8 → Prop) (tr : List Event) :
    List Event → Prop
  | refl : Writes R tr tr
  | other {tr' : List Event} {e : Event} : Writes R tr tr' →
      (∀ fd hdr payload ret, e ≠ .wrote fd hdr payload ret) → Writes R tr (e :: tr')
  | wrote {tr' : List Event} {fd ret : ℤ} {hdr : CldHdr} {payload : List UInt8} :
      Writes R tr tr' → R tr' fd hdr payload → Writes R tr (.wrote fd hdr payload ret :: tr')

section Reading

variable {R : List Event → ℤ → CldHdr → List UInt8 → Prop} {tr tr₁ tr₂ : List Event}
  {w w' w₁ : World P}

theorem conn_append {es : List Event} (hes : ∀ e ∈ es, e.isSocket = false) :
    conn (es ++ tr) = es ++ conn tr := by
  rw [conn, List.takeWhile_append_of_pos (by simpa using hes), conn]

theorem lastSocket_append {es : List Event} (hes : ∀ e ∈ es, e.isSocket = false) :
    lastSocket (es ++ tr) = lastSocket tr := by
  induction es with
  | nil => rfl
  | cons e es ih =>
    have ih := ih fun e' he' => hes e' (List.mem_cons_of_mem _ he')
    have he := hes e (List.mem_cons_self ..)
    cases e with
    | socket fd => cases he
    | _ => exact ih

theorem okReplies_append (cmd : ℕ) (es es' : List Event) :
    okReplies P cmd (es ++ es') = okReplies P cmd es ++ okReplies P cmd es' :=
  List.filterMap_append

theorem verdicts_append (cmd : ℕ) (es es' : List Event) :
    verdicts P cmd (es ++ es') = verdicts P cmd es ++ verdicts P cmd es' :=
  List.filterMap_append

theorem World.oks_append {es : List Event} (h : w'.trace = es ++ w.trace)
    (hes : ∀ e ∈ es, e.isSocket = false) (cmd : ℕ) :
    w'.oks cmd = okReplies P cmd es ++ w.oks cmd := by
  rw [World.oks, h, conn_append hes, okReplies_append, World.oks]

theorem World.since_eq {es : List Event} (h : w'.trace = es ++ w.trace) : w.since w' = es := by
  rw [World.since, h, List.length_append, Nat.add_sub_cancel, List.take_left']
  rfl

theorem Writes.trans (h₁ : Writes R tr tr₁) (h₂ : Writes R tr₁ tr₂) : Writes R tr tr₂ := by
  induction h₂ with
  | refl => exact h₁
  | other _ he ih => exact ih.other he
  | wrote _ hR ih => exact ih.wrote hR

/-- Every packet written meets the condition. -/
theorem Writes.spec (h : Writes R tr tr₁) {newer older : List Event} {fd ret : ℤ} {hdr : CldHdr}
    {payload : List UInt8} (heq : tr₁ = newer ++ .wrote fd hdr payload ret :: older)
    (hold : tr <:+ older) : R older fd hdr payload := by
  induction h generalizing newer with
  | refl =>
    -- the packet is not older than the record itself
    have h₁ := congrArg List.length heq
    have h₂ := hold.length_le
    simp only [List.length_append, List.length_cons] at h₁
    omega
  | other _ he ih =>
    cases newer with
    | nil =>
      rw [List.nil_append, List.cons.injEq] at heq
      exact absurd heq.1 (he _ _ _ _)
    | cons e newer => exact ih (List.cons.inj heq).2
  | wrote _ hR ih =>
    cases newer with
    | nil =>
      rw [List.nil_append, List.cons.injEq, Event.wrote.injEq] at heq
      obtain ⟨⟨rfl, rfl, rfl, rfl⟩, rfl⟩ := heq
      exact hR
    | cons e newer => exact ih (List.cons.inj heq).2

end Reading

/-! ## What the parts of a step add to the record -/

/-- A request that was made, and what its caller made of it. -/
structure Asked where
  cmd : ℕ
  text : CStr
  result : CommonStatus
  deriving DecidableEq

/-- The events `es` are those of the requests `qs` over `fd`, newest first, and of nothing
else that counts.  The replies to device-control requests do not count. -/
structure EventsOf (P : CldProtocol) (fd : ℤ) (qs : List Asked) (es : List Event) : Prop where
  okReplies_eq : ∀ c, okReplies P c es =
    (qs.filter fun q => q.cmd = c ∧ q.result = .succeed).map fun q => (fd, q.text)
  verdicts_eq : ∀ c, c ≠ P.cldcmdDevctl →
    verdicts P c es = (qs.filter fun q => q.cmd = c).map fun q => q.result.verdict

namespace EventsOf

variable {fd : ℤ} {qs qs' : List Asked} {es es' : List Event}

theorem append (h : EventsOf P fd qs es) (h' : EventsOf P fd qs' es') :
    EventsOf P fd (qs ++ qs') (es ++ es') where
  okReplies_eq c := by
    rw [okReplies_append, h.okReplies_eq, h'.okReplies_eq, List.filter_append, List.map_append]
  verdicts_eq c hc := by
    rw [verdicts_append, h.verdicts_eq c hc, h'.verdicts_eq c hc, List.filter_append,
      List.map_append]

/-- Nothing is answered for a command that is not asked. -/
theorem okReplies_nil (h : EventsOf P fd qs es) {c : ℕ} (hc : ∀ q ∈ qs, q.cmd ≠ c) :
    okReplies P c es = [] := by
  rw [h.okReplies_eq, List.filter_eq_nil_iff.2 fun q hq => by simp [hc q hq], List.map_nil]

/-- Something is answered with `OK` if and only if a request has succeeded. -/
theorem okReplies_ne_nil (h : EventsOf P fd qs es) {c : ℕ} :
    okReplies P c es ≠ [] ↔ ∃ q ∈ qs, q.cmd = c ∧ q.result = .succeed := by
  rw [h.okReplies_eq, ne_eq, List.map_eq_nil_iff, List.filter_eq_nil_iff]
  simp

theorem mem_okReplies (h : EventsOf P fd qs es) {q : Asked} (hq : q ∈ qs)
    (hr : q.result = .succeed) : (fd, q.text) ∈ okReplies P q.cmd es := by
  rw [h.okReplies_eq]
  exact List.mem_map_of_mem (List.mem_filter.2 ⟨hq, by simpa using hr⟩)

theorem mem_verdicts (h : EventsOf P fd qs es) {c : ℕ} (hc : c ≠ P.cldcmdDevctl) {v : Verdict} :
    v ∈ verdicts P c es ↔ ∃ q ∈ qs, q.cmd = c ∧ q.result.verdict = v := by
  rw [h.verdicts_eq c hc, List.mem_map]
  simp [and_assoc]

theorem silent (h₁ : ∀ c, okReplies P c es = []) (h₂ : ∀ c, c ≠ P.cldcmdDevctl →
    verdicts P c es = []) : EventsOf P fd [] es :=
  ⟨h₁, h₂⟩

end EventsOf

section Parts

variable {R : List Event → ℤ → CldHdr → List UInt8 → Prop} {w w' : World P}

theorem CommonStatus.verdict_eq {r : CommonStatus} (h₁ : r ≠ .cloudNetwork) (h₂ : r ≠ .succeed) :
    r.verdict = .rejected := by
  cases r <;> first | rfl | contradiction

theorem CommonStatus.eq_succeed {r : CommonStatus} (h : r.verdict = .accepted) : r = .succeed := by
  cases r <;> first | rfl | cases h

/-- The events of a single request, command by command. -/
theorem eventsOf_single {cmd : ℕ} {t : CStr} {r : CommonStatus} {fd : ℤ} {es : List Event}
    (h₁ : okReplies P cmd es = if r = .succeed then [(fd, t)] else [])
    (h₂ : verdicts P cmd es = [r.verdict])
    (h₃ : ∀ c, c ≠ cmd → okReplies P c es = [] ∧ verdicts P c es = []) :
    EventsOf P fd [⟨cmd, t, r⟩] es where
  okReplies_eq c := by
    by_cases hc : c = cmd
    · rw [hc, h₁]
      by_cases hr : r = .succeed <;> simp [hr]
    · simp [(h₃ c hc).1, Ne.symm hc]
  verdicts_eq c _ := by
    by_cases hc : c = cmd
    · simp [hc, h₂]
    · simp [(h₃ c hc).2, Ne.symm hc]

theorem Requests.events {cmd : ℕ} {t : CStr} {r : CommonStatus} (h : Requests cmd t w r w') :
    ∃ es, w'.trace = es ++ w.trace ∧ (∀ e ∈ es, e.isSocket = false) ∧
      EventsOf P w.cloud.fd [⟨cmd, t, r⟩] es := by
  obtain ⟨rep, hx, hr⟩ := h
  cases hx with
  | tooLarge hbig =>
    cases hr
    refine ⟨[_], rfl, by simp [Event.isSocket], eventsOf_single rfl ?_ fun c hc => ⟨rfl, ?_⟩⟩
    · simp [verdicts, Event.verdict, CommonStatus.verdict]
    · simp [verdicts, Event.verdict, Ne.symm hc]
  | writeFailed hcar hret =>
    cases hr
    refine ⟨[_], rfl, by simp [Event.isSocket], eventsOf_single rfl ?_ fun c hc => ⟨rfl, ?_⟩⟩
    · simp [verdicts, Event.verdict, hcar.cmd_eq, hret, CommonStatus.verdict]
    · simp [verdicts, Event.verdict, hcar.cmd_eq, Ne.symm hc]
  | noReply hcar hret =>
    cases hr
    refine ⟨[_, _], rfl, by simp [Event.isSocket], eventsOf_single ?_ ?_ fun c hc => ⟨?_, ?_⟩⟩
    · simp [okReplies, Event.okReply, not_le.2 hret]
    · simp [verdicts, Event.verdict, hcar.cmd_eq, hret, CommonStatus.verdict]
    · simp [okReplies, Event.okReply, hcar.cmd_eq, Ne.symm hc]
    · simp [verdicts, Event.verdict, hcar.cmd_eq, Ne.symm hc]
  | answered hcar hret hfd =>
    obtain ⟨hnet, hok⟩ := hr
    refine ⟨[_, _], rfl, by simp [Event.isSocket], eventsOf_single ?_ ?_ fun c hc => ⟨?_, ?_⟩⟩
    · by_cases hs : r = .succeed
      · simp [okReplies, Event.okReply, hcar.cmd_eq, hret, hs, hok.1 hs, hcar.text_eq]
      · simp [okReplies, Event.okReply, hs, mt hok.2 hs]
    · by_cases hs : r = .succeed
      · simp [verdicts, Event.verdict, hcar.cmd_eq, not_lt.2 hret, hok.1 hs, hs,
          CommonStatus.verdict]
      · simp [verdicts, Event.verdict, hcar.cmd_eq, not_lt.2 hret, mt hok.2 hs,
          CommonStatus.verdict_eq hnet hs]
    · simp [okReplies, Event.okReply, hcar.cmd_eq, Ne.symm hc]
    · simp [verdicts, Event.verdict, hcar.cmd_eq, Ne.symm hc]

theorem Requests.oks {cmd : ℕ} {t : CStr} {r : CommonStatus} (h : Requests cmd t w r w')
    (c : ℕ) :
    w'.oks c = (if c = cmd ∧ r = .succeed then [(w.cloud.fd, t)] else []) ++ w.oks c := by
  obtain ⟨es, htr, hns, hes⟩ := h.events
  rw [World.oks_append htr hns, hes.okReplies_eq]
  by_cases hc : c = cmd ∧ r = .succeed
  · simp [hc]
  · rw [if_neg hc, List.filter_eq_nil_iff.2 fun q hq => ?_, List.map_nil]
    rw [List.mem_singleton.1 hq]
    exact fun hn => hc ((of_decide_eq_true hn).imp_left Eq.symm)

theorem Requests.writes {cmd : ℕ} {t : CStr} {r : CommonStatus} (h : Requests cmd t w r w')
    (hR : ∀ hdr payload, Carries P cmd t hdr payload → R w.trace w.cloud.fd hdr payload) :
    Writes R w.trace w'.trace := by
  obtain ⟨rep, hx, -⟩ := h
  cases hx with
  | tooLarge _ => exact Writes.refl.other (by simp)
  | writeFailed hc _ => exact Writes.refl.wrote (hR _ _ hc)
  | noReply hc _ => exact (Writes.refl.wrote (hR _ _ hc)).other (by simp)
  | answered hc _ _ => exact (Writes.refl.wrote (hR _ _ hc)).other (by simp)

theorem Responds.events {r : ℤ} (h : Responds w r w') (fd : ℤ) :
    ∃ es, w'.trace = es ++ w.trace ∧ (∀ e ∈ es, e.isSocket = false) ∧ EventsOf P fd [] es := by
  cases h with
  | tooLarge =>
    refine ⟨[_], rfl, by simp [Event.isSocket], .silent (fun _ => rfl) fun c hc => ?_⟩
    simp [verdicts, Event.verdict, Ne.symm hc]
  | wrote hcar =>
    refine ⟨[_], rfl, by simp [Event.isSocket], .silent (fun _ => rfl) fun c hc => ?_⟩
    simp [verdicts, Event.verdict, hcar.cmd_eq, Ne.symm hc]

/-- What `network_device_control` does to the module: nothing, or it is unbound. -/
inductive Unbinds (w w' : World P) (qs : List Asked) : Prop
  | no : w'.cloud = w.cloud → w'.conf = w.conf → (∀ q ∈ qs, q.result ≠ .succeed) →
      Unbinds w w' qs
  | yes : w'.cloud = { w.cloud with binded := false, status := .connected } →
      w'.conf = { w.conf with account := .zero, password := .zero } →
      (∃ q ∈ qs, q.result = .succeed) → Unbinds w w' qs

/-- The events of `network_device_control`, the requests among them, and its effect. -/
structure ControlEffect (w w' : World P) (es : List Event) (qs : List Asked) : Prop where
  trace_eq : w'.trace = es ++ w.trace
  noSocket : ∀ e ∈ es, e.isSocket = false
  sockets_eq : w'.sockets = w.sockets
  events : EventsOf P w.cloud.fd qs es
  cmds : ∀ q ∈ qs, q.cmd = P.cldcmdUbindev
  unbinds : Unbinds w w' qs

theorem ControlEffect.silent {es : List Event} (htr : w'.trace = es ++ w.trace)
    (hns : ∀ e ∈ es, e.isSocket = false) (hes : EventsOf P w.cloud.fd [] es)
    (hc : w'.cloud = w.cloud) (hf : w'.conf = w.conf) (hs : w'.sockets = w.sockets) :
    ControlEffect w w' es [] :=
  ⟨htr, hns, hs, hes, nofun, .no hc hf nofun⟩

theorem ControlEffect.trans {w₁ : World P} {es es' : List Event} {qs : List Asked}
    (h : ControlEffect w w₁ es []) (hc : w₁.cloud = w.cloud) (hf : w₁.conf = w.conf)
    (h' : ControlEffect w₁ w' es' qs) : ControlEffect w w' (es' ++ es) qs where
  trace_eq := by rw [h'.trace_eq, h.trace_eq, List.append_assoc]
  noSocket e he := (List.mem_append.1 he).elim (h'.noSocket e) (h.noSocket e)
  sockets_eq := h'.sockets_eq.trans h.sockets_eq
  events := by
    have h'e := h'.events
    rw [hc] at h'e
    simpa using h'e.append h.events
  cmds := h'.cmds
  unbinds := by
    cases h'.unbinds with
    | no h₁ h₂ h₃ => exact .no (h₁.trans hc) (h₂.trans hf) h₃
    | yes h₁ h₂ h₃ => exact .yes (by rw [h₁, hc]) (by rw [h₂, hf]) h₃

theorem Served.effect (h : Served w w') : ∃ es qs, ControlEffect w w' es qs := by
  cases h with
  | other =>
    exact ⟨[], [], .silent rfl nofun (.silent (fun _ => rfl) fun _ _ => rfl) rfl rfl rfl⟩
  | @refused r _ hu hr =>
    obtain ⟨es, htr, hns, hes⟩ := Requests.events hu
    exact ⟨es, _, htr, hns, hu.sockets_eq, hes, by simp,
      .no hu.cloud_eq hu.conf_eq (by simpa using hr)⟩
  | unbound hu =>
    obtain ⟨es, htr, hns, hes⟩ := Requests.events hu
    refine ⟨es, _, htr, hns, hu.sockets_eq, hes, by simp, .yes ?_ ?_ (by simp)⟩
    · rw [World.cloud_unbound, hu.cloud_eq]
    · rw [World.conf_unbound, hu.conf_eq]

/-- **What `network_device_control` does.** -/
theorem Control.effect {r : ℤ} (h : Control w r w') : ∃ es qs, ControlEffect w w' es qs := by
  have hrecv : ∀ ret mem, ControlEffect w (w.log (.received .control w.cloud.fd ret mem))
      [.received .control w.cloud.fd ret mem] [] := fun ret mem =>
    .silent rfl (by simp [Event.isSocket]) (.silent (fun _ => rfl) fun _ _ => rfl) rfl rfl rfl
  cases h with
  | idle =>
    exact ⟨[], [], .silent rfl nofun (.silent (fun _ => rfl) fun _ _ => rfl) rfl rfl rfl⟩
  | lost _ => exact ⟨_, _, hrecv _ _⟩
  | ignored _ => exact ⟨_, _, hrecv _ _⟩
  | @replied ret r mem w₁ w₂ _ hs hr =>
    obtain ⟨es₁, qs, h₁⟩ := hs.effect
    obtain ⟨es₂, htr, hns, hes⟩ := hr.events w.cloud.fd
    have h₂ := (hrecv ret mem).trans rfl rfl h₁
    generalize es₁ ++ [_] = es at h₂
    have hcloud : w'.cloud = w₁.cloud ∧ w'.conf = w₁.conf ∧ w'.sockets = w₁.sockets := by
      cases hr <;> exact ⟨rfl, rfl, rfl⟩
    refine ⟨es₂ ++ es, qs, ?_, ?_, hcloud.2.2.trans h₂.sockets_eq, ?_, h₂.cmds, ?_⟩
    · rw [htr, h₂.trace_eq, List.append_assoc]
    · exact fun e he => (List.mem_append.1 he).elim (hns e) (h₂.noSocket e)
    · exact hes.append h₂.events
    · cases h₂.unbinds with
      | no hc hf ho => exact .no (hcloud.1.trans hc) (hcloud.2.1.trans hf) ho
      | yes hc hf ho => exact .yes (hcloud.1.trans hc) (hcloud.2.1.trans hf) ho

theorem Control.writes {r : ℤ} (h : Control w r w')
    (hR : ∀ tr fd hdr payload, hdr.cmd = P.cldcmdUbindev ∨ hdr.cmd = P.cldcmdDevctl →
      R tr fd hdr payload) : Writes R w.trace w'.trace := by
  have hrecv : ∀ ret mem, Writes R w.trace (w.log (.received .control w.cloud.fd ret mem)).trace :=
    fun ret mem => Writes.refl.other (by simp)
  cases h with
  | idle => exact .refl
  | lost _ => exact hrecv _ _
  | ignored _ => exact hrecv _ _
  | @replied ret r mem w₁ w₂ _ hs hr =>
    have h₁ : Writes R (w.log (.received .control w.cloud.fd ret mem)).trace w₁.trace := by
      cases hs with
      | other => exact .refl
      | refused hu _ => exact Requests.writes hu fun _ _ hc => hR _ _ _ _ (Or.inl hc.cmd_eq)
      | unbound hu =>
        rw [World.trace_unbound]
        exact Requests.writes hu fun _ _ hc => hR _ _ _ _ (Or.inl hc.cmd_eq)
    refine (hrecv ret mem).trans (h₁.trans ?_)
    cases hr with
    | tooLarge => exact Writes.refl.other (by simp)
    | wrote hc => exact Writes.refl.wrote (hR _ _ _ _ (Or.inr hc.cmd_eq))

theorem World.disconnect_events (w : World P) (fd : ℤ) : ∃ es, w.disconnect.trace = es ++ w.trace ∧
    (∀ e ∈ es, e.isSocket = false) ∧ EventsOf P fd [] es := by
  rw [World.disconnect]
  split
  · exact ⟨[], rfl, List.forall_mem_nil _, fun _ => rfl, fun _ _ => rfl⟩
  · exact ⟨[_], rfl, by simp [Event.isSocket], fun _ => rfl, fun _ _ => rfl⟩

@[simp] theorem World.oks_disconnect (w : World P) (c : ℕ) : w.disconnect.oks c = w.oks c := by
  obtain ⟨es, htr, hns, hes⟩ := w.disconnect_events 0
  rw [World.oks_append htr hns, hes.okReplies_nil nofun, List.nil_append]

@[simp] theorem World.lastSocket_disconnect (w : World P) :
    lastSocket w.disconnect.trace = lastSocket w.trace := by
  obtain ⟨es, htr, hes, -⟩ := w.disconnect_events 0
  rw [htr, lastSocket_append hes]

theorem World.sockets_disconnect (w : World P) :
    w.disconnect.sockets = if w.cloud.fd = -1 then w.sockets else w.sockets.erase w.cloud.fd := by
  rw [World.disconnect]
  split <;> rfl

theorem World.disconnect_writes (w : World P) : Writes R w.trace w.disconnect.trace := by
  rw [World.disconnect]
  split
  · exact .refl
  · exact Writes.refl.other (by simp)

theorem World.setStatus_disconnect_writes (w : World P) (s : Status) :
    Writes R w.trace (w.setStatus s).disconnect.trace :=
  World.disconnect_writes (w.setStatus s)

/-- What polling can change in the struct. -/
theorem Polls.cloud_eq (h : Polls w w') : w'.cloud = { w.cloud with
    binded := w'.cloud.binded, status := w'.cloud.status, fd := w'.cloud.fd } := by
  have key : ∀ {r : ℤ} {w₁ : World P}, Control w r w₁ →
      w₁.cloud = { w.cloud with binded := w₁.cloud.binded, status := w₁.cloud.status } := by
    intro r w₁ hc
    obtain ⟨es, qs, he⟩ := hc.effect
    cases he.unbinds with
    | no hcl _ _ => rw [hcl]
    | yes hcl _ _ => rw [hcl]
  cases h with
  | quiet => rfl
  | served _ hc => rw [key hc]
  | failed _ _ hc => rw [World.cloud_setStatus, World.cloud_disconnect, key hc]

/-- Polling does not lead to the status `CONNECTED` with a binding. -/
theorem Polls.connected_bound (hp : Polls w w') (hs' : w'.cloud.status = .connected)
    (hb' : w'.cloud.binded = true) : w.cloud.status = .connected := by
  cases hp with
  | quiet => exact hs'
  | failed _ _ _ => cases hs'
  | served _ hc =>
    obtain ⟨es, qs, he⟩ := hc.effect
    cases he.unbinds with
    | no hcl _ _ => rwa [hcl] at hs'
    | yes hcl _ _ =>
      rw [hcl] at hb'
      cases hb'

/-- How an iteration of the daemon can end with the status `CONNECTED` and a binding: it
has connected, or it was connected and has polled, after a refresh or without one. -/
inductive ConnectedBound (w w' : World P) : Prop
  | fresh {w₁ w₂ w₃ : World P} : Connects w .succeed w₁ → Auths w₁ .succeed w₂ →
      Updates w₂ .succeed w₃ → w' = w₃.setStatus .connected → ConnectedBound w w'
  | polled : w.cloud.status = .connected → w.cloud.binded = true → Polls w w' →
      ConnectedBound w w'
  | refreshed {w₁ : World P} : w.cloud.status = .connected → w.cloud.binded = true →
      Updates w.taken .succeed w₁ → Polls w₁ w' → ConnectedBound w w'

theorem DaemonStep.connected_bound (hd : DaemonStep w w') (hs' : w'.cloud.status = .connected)
    (hb' : w'.cloud.binded = true) : ConnectedBound w w' := by
  cases hd with
  | initIdle hs _ hp => cases hs.symm.trans (hp.connected_bound hs' hb')
  | initBound _ _ => cases hs'
  | connectFailed _ _ _ => cases hs'
  | connectUnbound _ _ _ => cases hs'
  | authFailed _ _ _ _ _ => exact absurd hs' (failStatus_ne_connected _)
  | updateFailed _ _ _ _ _ _ => exact absurd hs' (failStatus_ne_connected _)
  | connected _ _ hc ha hu => exact .fresh hc ha hu rfl
  | dropUnbound _ _ => cases hs'
  | upToDate hs hb _ hp => exact .polled hs hb hp
  | refreshFailed _ _ _ _ _ _ => exact absurd hs' (failStatus_ne_connected _)
  | refreshed hs hb _ _ hu hp => exact .refreshed hs hb hu hp
  | gaveUp hs _ => rw [World.cloud_disconnect] at hs'; cases hs.symm.trans hs'
  | waiting hs _ _ _ =>
    rw [World.cloud_paced, World.cloud_disconnect] at hs'
    cases hs.symm.trans hs'
  | retry _ _ _ _ => cases hs'
  | broken hs => rw [World.cloud_disconnect] at hs'; cases hs.symm.trans hs'
  | restart _ => cases hs'

/-- The effect of `cloud_do_connect`. -/
structure ConnectEffect (w : World P) (r : CommonStatus) (w' : World P) : Prop where
  cloud_eq : w'.cloud = { w.cloud with fd := w'.cloud.fd, reachable := w'.cloud.reachable }
  conf_eq : w'.conf = w.conf
  sockets_eq : w'.sockets = if w'.cloud.fd = -1 then w.sockets else w'.cloud.fd :: w.sockets
  fresh : w'.cloud.fd ∉ w.sockets ∨ w'.cloud.fd = -1
  fd_ne : r = .succeed → w'.cloud.fd ≠ -1
  lastSocket_eq : lastSocket w'.trace = some w'.cloud.fd
  oks_eq : ∀ c, w'.oks c = []
  events : ∀ fd, ∃ es, w'.trace = es ++ w.trace ∧ EventsOf P fd [] es
  writes : ∀ R, Writes R w.trace w'.trace

theorem Connects.effect {r : CommonStatus} (h : Connects w r w') : ConnectEffect w r w' := by
  have hne : ∀ {fd : ℤ}, 0 ≤ fd → fd ≠ -1 := fun h => by omega
  cases h with
  | noSocket =>
    exact ⟨rfl, rfl, rfl, Or.inr rfl, nofun, rfl, fun _ => rfl,
      fun _ => ⟨[_], rfl, fun _ => rfl, fun _ _ => rfl⟩, fun _ => Writes.refl.other (by simp)⟩
  | refused h0 hfd _ =>
    exact ⟨rfl, rfl, (if_neg (hne h0)).symm, Or.inl hfd, nofun, rfl, fun _ => rfl,
      fun _ => ⟨[_, _], rfl, fun _ => rfl, fun _ _ => rfl⟩,
      fun _ => (Writes.refl.other (by simp)).other (by simp)⟩
  | noGreeting h0 hfd _ =>
    exact ⟨rfl, rfl, (if_neg (hne h0)).symm, Or.inl hfd, nofun, rfl, fun _ => rfl,
      fun _ => ⟨[_, _, _], rfl, fun _ => rfl, fun _ _ => rfl⟩,
      fun _ => ((Writes.refl.other (by simp)).other (by simp)).other (by simp)⟩
  | connected h0 hfd _ =>
    exact ⟨rfl, rfl, (if_neg (hne h0)).symm, Or.inl hfd, fun _ => hne h0, rfl, fun _ => rfl,
      fun _ => ⟨[_, _, _], rfl, fun _ => rfl, fun _ _ => rfl⟩,
      fun _ => ((Writes.refl.other (by simp)).other (by simp)).other (by simp)⟩

end Parts

/-! ## The requests of a step -/

/-- On the way from `w` to `w'` exactly the requests `qs` were made, newest first, over
`fd`. -/
def Asks (w w' : World P) (fd : ℤ) (qs : List Asked) : Prop :=
  ∃ es, w'.trace = es ++ w.trace ∧ EventsOf P fd qs es

section Asks

variable {w w' w₁ : World P} {fd : ℤ} {qs qs' : List Asked} {r : CommonStatus}

theorem Asks.of_eq (h : w'.trace = w.trace) : Asks w w' fd [] :=
  ⟨[], h, .silent (fun _ => rfl) fun _ _ => rfl⟩

theorem Asks.trans (h : Asks w w₁ fd qs) (h' : Asks w₁ w' fd qs') : Asks w w' fd (qs' ++ qs) := by
  obtain ⟨es, htr, hes⟩ := h
  obtain ⟨es', htr', hes'⟩ := h'
  exact ⟨es' ++ es, by rw [htr', htr, List.append_assoc], hes'.append hes⟩

theorem Asks.since (h : Asks w w' fd qs) : EventsOf P fd qs (w.since w') := by
  obtain ⟨es, htr, hes⟩ := h
  rwa [World.since_eq htr]

theorem Requests.asks {cmd : ℕ} {t : CStr} (h : Requests cmd t w r w') :
    Asks w w' w.cloud.fd [⟨cmd, t, r⟩] := by
  obtain ⟨es, htr, -, hes⟩ := h.events
  exact ⟨es, htr, hes⟩

theorem Auths.asks (h : Auths w r w') :
    Asks w w' w.cloud.fd [⟨P.cldcmdAuth, authText w.cloud, r⟩] :=
  Requests.asks h

theorem Updates.asks (h : Updates w r w') :
    Asks w w' w.cloud.fd [⟨P.cldcmdUpdev, updateText w.cloud.devinfo, r⟩] := by
  obtain ⟨w₁, hq, htr⟩ := h.events_trace
  obtain ⟨es, htr', hes⟩ := hq.asks
  exact ⟨es, htr.trans htr', hes⟩

theorem Connects.asks (h : Connects w r w') (fd : ℤ) : Asks w w' fd [] := h.effect.events fd

theorem World.disconnect_asks (w : World P) (fd : ℤ) : Asks w w.disconnect fd [] := by
  obtain ⟨es, htr, -, hes⟩ := w.disconnect_events fd
  exact ⟨es, htr, hes⟩

theorem World.setStatus_disconnect_asks (w : World P) (s : Status) (fd : ℤ) :
    Asks w (w.setStatus s).disconnect fd [] :=
  World.disconnect_asks (w.setStatus s) fd

theorem UBindOnline.asks (h : UBindOnline w r w') :
    Asks w w' w.cloud.fd [⟨P.cldcmdUbindev, CStr.lit "", r⟩] := by
  cases h with
  | acknowledged hu => exact (Requests.asks hu).trans (World.disconnect_asks (World.unbound _ _) _)
  | failed hu _ => exact (Requests.asks hu).trans (World.setStatus_disconnect_asks _ _ _)

theorem Control.asks {r : ℤ} (h : Control w r w') :
    ∃ qs, Asks w w' w.cloud.fd qs ∧ (∀ q ∈ qs, q.cmd = P.cldcmdUbindev) ∧ Unbinds w w' qs := by
  obtain ⟨es, qs, he⟩ := h.effect
  exact ⟨qs, ⟨es, he.trace_eq, he.events⟩, he.cmds, he.unbinds⟩

end Asks

/-! ## Greetings -/

/-- The event of a connection being greeted. -/
def Event.isGreeting : Event → Bool
  | .greeting _ n => decide (0 < n)
  | _ => false

/-- On the way from `w` to `w'` a new connection was greeted, that is, `cloud_do_connect`
succeeded. -/
def World.greeted (w w' : World P) : Bool := (w.since w').any Event.isGreeting

section Greetings

variable {w w' w₁ : World P} {r : CommonStatus}

/-- The record has grown, with a greeting or without. -/
def Greets (w w' : World P) (b : Bool) : Prop :=
  ∃ es, w'.trace = es ++ w.trace ∧ es.any Event.isGreeting = b

theorem Greets.greeted {b : Bool} (h : Greets w w' b) : w.greeted w' = b := by
  obtain ⟨es, htr, hes⟩ := h
  rw [World.greeted, World.since_eq htr, hes]

theorem Greets.trans {b b' : Bool} (h : Greets w w₁ b) (h' : Greets w₁ w' b') :
    Greets w w' (b' || b) := by
  obtain ⟨es, htr, hes⟩ := h
  obtain ⟨es', htr', hes'⟩ := h'
  exact ⟨es' ++ es, by rw [htr', htr, List.append_assoc], by rw [List.any_append, hes, hes']⟩

theorem Greets.of_eq (h : w'.trace = w.trace) : Greets w w' false := ⟨[], h, rfl⟩

/-- A connect is greeted exactly if it succeeds. -/
theorem Connects.greets (h : Connects w r w') : Greets w w' (decide (r = .succeed)) := by
  cases h with
  | noSocket => exact ⟨[_], rfl, rfl⟩
  | refused _ _ _ => exact ⟨[_, _], rfl, rfl⟩
  | noGreeting _ _ hn => exact ⟨[_, _, _], rfl, by simp [Event.isGreeting, hn]⟩
  | connected _ _ hn => exact ⟨[_, _, _], rfl, by simp [Event.isGreeting, hn]⟩

theorem Requests.greets {cmd : ℕ} {t : CStr} (h : Requests cmd t w r w') : Greets w w' false := by
  obtain ⟨rep, hx, -⟩ := h
  cases hx with
  | tooLarge _ => exact ⟨[_], rfl, rfl⟩
  | writeFailed _ _ => exact ⟨[_], rfl, rfl⟩
  | noReply _ _ => exact ⟨[_, _], rfl, rfl⟩
  | answered _ _ _ => exact ⟨[_, _], rfl, rfl⟩

theorem Updates.greets (h : Updates w r w') : Greets w w' false := by
  obtain ⟨w₁, hq, htr⟩ := h.events_trace
  obtain ⟨es, htr', hes⟩ := hq.greets
  exact ⟨es, htr.trans htr', hes⟩

theorem World.disconnect_greets (w : World P) : Greets w w.disconnect false := by
  rw [World.disconnect]
  split
  · exact ⟨[], rfl, rfl⟩
  · exact ⟨[_], rfl, rfl⟩

end Greetings

/-! ## Single operations -/

section Operations

variable {w w' : World P} {o : Op P} {i : Input} {x : Ans P o}

/-- The operations that change the struct. -/
def Op.writes : Op P → Prop
  | .modify _ | .setStatus _ | .setUpdate _ => True
  | _ => False

/-- **What one operation can do to the world.** -/
inductive OpCase (o : Op P) (w : World P) : World P → Prop
  | same : OpCase o w w
  | modified (f : Cloud P → Cloud P) : o = .modify f → OpCase o w (w.modify f)
  /-- The status or the update flag is written, and nothing else of the struct. -/
  | flagged (f : Cloud P → Cloud P) : o.writes → (∀ c, (f c).fd = c.fd) → OpCase o w (w.modify f)
  | logged (e : Event) : OpCase o w (w.log e)
  | opened (fd : ℤ) : 0 ≤ fd → OpCase o w (w.opened fd)
  | closed (fd : ℤ) : OpCase o w (w.closed fd)
  | configured (key : CfgString) (v : Field P.cloudNameLen) : OpCase o w (w.setConf key v)

theorem handle_cases (h : handle P o i w = some (x, w')) : OpCase o w w' := by
  have hr : Runs (perform o) w x w' := runs_perform.2 ⟨i, h⟩
  have hsame : w' = w → OpCase o w w' := by
    rintro rfl
    exact .same
  cases o with
  | get => exact hsame (runs_getCloud.1 hr).2
  | modify f => exact runs_modifyCloud.1 hr ▸ .modified f rfl
  | getStatus => exact hsame (runs_getStatus.1 hr).2
  | setStatus s => exact runs_setStatus.1 hr ▸ .flagged _ trivial fun _ => rfl
  | getUpdate => exact hsame (runs_getUpdate.1 hr).2
  | setUpdate b => exact runs_setUpdate.1 hr ▸ .flagged _ trivial fun _ => rfl
  | lock => exact hsame (runs_lock.1 hr)
  | unlock => exact hsame (runs_unlock.1 hr)
  | socket =>
    rcases runs_socket.1 hr with ⟨-, rfl⟩ | ⟨h0, -, rfl⟩
    · exact .logged _
    · exact .opened _ h0
  | connect fd => exact runs_connect.1 hr ▸ .logged _
  | readGreeting fd => exact runs_readGreeting.1 hr ▸ .logged _
  | close fd => exact runs_close.1 hr ▸ .closed fd
  | tcpWrite fd hdr payload => exact runs_tcpWritePacket hr ▸ .logged _
  | recvPacket rc fd res => exact (runs_recvPacket hr).1 ▸ .logged _
  | select fd t => exact hsame (runs_select.1 hr)
  | sleep t => exact hsame (runs_sleep.1 hr)
  | stack n => exact hsame (runs_stack.1 hr).2
  | logTooLarge cmd => exact runs_logTooLarge.1 hr ▸ .logged _
  | crash => exact absurd hr not_runs_crash
  | sysConfGetLong key => exact hsame (runs_sysConfGetLong.1 hr).2
  | sysConfSetString key v => exact runs_sysConfSetString.1 hr ▸ .configured key v
  | swSystemSetProductName name => exact hsame (runs_swSystemSetProductName.1 hr)
  | swSystemSetProductNameCheck name => exact hsame (runs_swSystemSetProductNameCheck.1 hr)
  | swVideoCtrlGetResolution => exact hsame (runs_swVideoCtrlGetResolution.1 hr)
  | swVideoCtrlSetResolution a b => exact hsame (runs_swVideoCtrlSetResolution.1 hr)

/-- The record only grows. -/
theorem handle_suffix (h : handle P o i w = some (x, w')) : w.trace <:+ w'.trace := by
  cases handle_cases h with
  | same => exact List.suffix_rfl
  | modified f _ => exact List.suffix_rfl
  | flagged f _ _ => exact List.suffix_rfl
  | logged e => exact List.suffix_cons ..
  | opened fd _ => exact List.suffix_cons ..
  | closed fd => exact List.suffix_cons ..
  | configured key v =>
    rw [World.trace_setConf]

theorem runs_suffix {α : Type} {p : CloudM P α} {a : α} (h : Runs p w a w') :
    w.trace <:+ w'.trace := by
  induction p generalizing w with
  | ret b =>
    obtain ⟨-, rfl⟩ := h
    exact List.suffix_rfl
  | op o k ih =>
    obtain ⟨i, x, w₁, hx, hk⟩ := h
    exact (handle_suffix hx).trans (ih x hk)

/-- The operations that do not change the struct leave it as it is. -/
theorem handle_cloud (h : handle P o i w = some (x, w')) (ho : ¬ o.writes) :
    w'.cloud = w.cloud := by
  cases handle_cases h with
  | same => rfl
  | modified f hf =>
    rw [hf] at ho
    exact absurd trivial ho
  | flagged f hw _ => exact absurd hw ho
  | logged e => rfl
  | opened fd _ => rfl
  | closed fd => rfl
  | configured key v => exact World.cloud_setConf w key v

end Operations

end SwCloud
