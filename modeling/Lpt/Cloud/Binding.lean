import Lpt.Cloud.Run

/-!
# The binding survives a restart

The device is bound exactly if the persisted account is not empty, and the persisted
account and password are those of the last event that may change them: the start, an
unbind the server has acknowledged, or a successful `swCloudBind`.  `ledger` computes
them from what was done and what the server answered.

The first law needs that the server accepts no empty account; this is said of the steps
of a run, in `NoEmptyAccount`.
-/

namespace SwCloud

open CLib Effect Trans

variable {P : CldProtocol}

/-! ## The ledger -/

/-- The account and the password of a successful `swCloudBind`: an `AUTH` with them and
a `BINDEV` were answered with `OK` in this step. -/
def bindPair (m : Move (World P) Action) :
    Option (Field P.cloudNameLen × Field P.cloudNameLen) :=
  match m.label with
  | .bind (some user) (some password) (some _) =>
      let account : Field P.cloudNameLen := .snprintf user
      let password : Field P.cloudNameLen := .snprintf password
      let es := m.pre.since m.post
      if lines [account.str, password.str, m.post.cloud.devinfo.id.str] ∈
          (okReplies P P.cldcmdAuth es).map Prod.snd ∧ okReplies P P.cldcmdBindev es ≠ [] then
        some (account, password)
      else none
  | _ => none

/-- The account and the password that have to be persisted after a step. -/
def nextPair (p : Field P.cloudNameLen × Field P.cloudNameLen) (m : Move (World P) Action) :
    Field P.cloudNameLen × Field P.cloudNameLen :=
  if okReplies P P.cldcmdUbindev (m.pre.since m.post) ≠ [] then (.zero, .zero)
  else (bindPair m).getD p

/-- The account and the password that have to be persisted after a run that began with
the configuration `f`. -/
def ledger (f : Conf P) (h : List (Move (World P) Action)) :
    Field P.cloudNameLen × Field P.cloudNameLen :=
  monitor nextPair (f.account, f.password) h

/-- The server has not accepted an empty account in this step.  No step writes the
account after its `AUTH`, so the account after the step is the one that was sent. -/
def NoEmptyAccount (m : Move (World P) Action) : Prop :=
  m.post.cloud.account.str.bytes = [] → okReplies P P.cldcmdAuth (m.pre.since m.post) = []

instance (m : Move (World P) Action) : Decidable (NoEmptyAccount m) :=
  inferInstanceAs (Decidable (_ → _))

/-! ## Steps -/

/-- The binding and what is persisted of it stay as they are. -/
structure Keeps (w w' : World P) : Prop where
  conf_eq : w'.conf = w.conf
  binded_eq : w'.cloud.binded = w.cloud.binded
  events : ∃ es, w'.trace = es ++ w.trace ∧ okReplies P P.cldcmdUbindev es = []

/-- The binding is given up, after the server has acknowledged it. -/
structure Clears (w w' : World P) : Prop where
  conf_eq : w'.conf = { w.conf with account := .zero, password := .zero }
  binded_eq : w'.cloud.binded = false
  events : ∃ es, w'.trace = es ++ w.trace ∧ okReplies P P.cldcmdUbindev es ≠ []

section Steps

variable {w w' w₁ : World P} {r : CommonStatus}

/-- The acknowledgements in two parts of a step, newest first. -/
theorem acknowledged_append {as as' : List (ℤ × CStr)}
    (h : ∃ es, w₁.trace = es ++ w.trace ∧ okReplies P P.cldcmdUbindev es = as)
    (h' : ∃ es, w'.trace = es ++ w₁.trace ∧ okReplies P P.cldcmdUbindev es = as') :
    ∃ es, w'.trace = es ++ w.trace ∧ okReplies P P.cldcmdUbindev es = as' ++ as := by
  obtain ⟨es, htr, hes⟩ := h
  obtain ⟨es', htr', hes'⟩ := h'
  refine ⟨es' ++ es, by rw [htr', htr, List.append_assoc], ?_⟩
  rw [okReplies_append, hes, hes']

theorem Keeps.trans (h : Keeps w w₁) (h' : Keeps w₁ w') : Keeps w w' where
  conf_eq := h'.conf_eq.trans h.conf_eq
  binded_eq := h'.binded_eq.trans h.binded_eq
  events := acknowledged_append h.events h'.events

theorem Keeps.clears (h : Keeps w w₁) (h' : Clears w₁ w') : Clears w w' where
  conf_eq := by rw [h'.conf_eq, h.conf_eq]
  binded_eq := h'.binded_eq
  events := by
    obtain ⟨es', htr', hes'⟩ := h'.events
    obtain ⟨es, htr, hes⟩ := acknowledged_append h.events ⟨es', htr', rfl⟩
    exact ⟨es, htr, by rwa [hes, List.append_nil]⟩

theorem Clears.keeps (h : Clears w w₁) (h' : Keeps w₁ w') : Clears w w' where
  conf_eq := by rw [h'.conf_eq, h.conf_eq]
  binded_eq := h'.binded_eq.trans h.binded_eq
  events := by
    obtain ⟨es', htr', hes'⟩ := h.events
    obtain ⟨es, htr, hes⟩ := acknowledged_append ⟨es', htr', rfl⟩ h'.events
    exact ⟨es, htr, by rwa [hes, List.nil_append]⟩

theorem Keeps.of_eq (hf : w'.conf = w.conf) (hb : w'.cloud.binded = w.cloud.binded)
    (htr : w'.trace = w.trace) : Keeps w w' :=
  ⟨hf, hb, [], htr, rfl⟩

theorem Asks.keeps {fd : ℤ} {qs : List Asked} (h : Asks w w' fd qs) (hf : w'.conf = w.conf)
    (hb : w'.cloud.binded = w.cloud.binded)
    (hq : ∀ q ∈ qs, q.cmd = P.cldcmdUbindev → q.result ≠ .succeed) : Keeps w w' := by
  obtain ⟨es, htr, hes⟩ := h
  refine ⟨hf, hb, es, htr, ?_⟩
  by_contra hne
  obtain ⟨q, hmem, hcmd, hres⟩ := hes.okReplies_ne_nil.1 hne
  exact hq q hmem hcmd hres

theorem Connects.keeps (h : Connects w r w') : Keeps w w' :=
  (h.asks 0).keeps h.effect.conf_eq (by rw [h.effect.cloud_eq]) nofun

theorem World.disconnect_keeps (w : World P) : Keeps w w.disconnect :=
  (w.disconnect_asks 0).keeps w.conf_disconnect (by rw [World.cloud_disconnect]) nofun

theorem World.setStatus_keeps (w : World P) (s : Status) : Keeps w (w.setStatus s) :=
  .of_eq rfl rfl rfl

theorem World.setStatus_disconnect_keeps (w : World P) (s : Status) :
    Keeps w (w.setStatus s).disconnect :=
  (w.setStatus_keeps s).trans (World.disconnect_keeps _)

theorem World.credited_keeps (w : World P) (user password devicename : CStr) :
    Keeps w (w.credited user password devicename) :=
  .of_eq rfl rfl rfl

theorem World.taken_keeps (w : World P) : Keeps w w.taken := .of_eq rfl rfl rfl

/-- Any request but a successful `UBINDEV` keeps the binding. -/
theorem Requests.keeps {cmd : ℕ} {t : CStr} (h : Requests cmd t w r w')
    (hq : cmd = P.cldcmdUbindev → r ≠ .succeed) : Keeps w w' :=
  h.asks.keeps h.conf_eq (by rw [h.cloud_eq]) (by simpa using hq)

theorem Auths.keeps (h : Auths w r w') : Keeps w w' := by
  have := P.cmds_ne
  exact Requests.keeps h fun hc => by omega

theorem Updates.keeps (h : Updates w r w') : Keeps w w' := by
  have := P.cmds_ne
  exact h.asks.keeps h.conf_eq (by rw [h.cloud_eq]) (by simp; omega)

theorem Regusrs.keeps {account username password : CStr}
    (h : Regusrs account username password w r w') : Keeps w w' := by
  obtain ⟨code, h⟩ := h
  have := P.cmds_ne
  exact h.keeps fun hc => by omega

theorem Binds.keeps (h : Binds w r w') : Keeps w w' := by
  obtain ⟨code, h⟩ := h
  have := P.cmds_ne
  exact h.keeps fun hc => by omega

theorem Ubinds.clears (h : Ubinds w .succeed w') (s : Status) : Clears w (w'.unbound s) := by
  obtain ⟨es, htr, hes⟩ := Requests.asks h
  refine ⟨?_, rfl, es, htr, hes.okReplies_ne_nil.2 ⟨_, List.mem_singleton_self _, rfl, rfl⟩⟩
  rw [World.conf_unbound, Requests.conf_eq h]

theorem Control.keeps_or_clears {r : ℤ} (h : Control w r w') : Keeps w w' ∨ Clears w w' := by
  obtain ⟨qs, ⟨es, htr, hes⟩, hcmds, hu⟩ := h.asks
  cases hu with
  | no hc hf hq =>
    exact Or.inl (Asks.keeps ⟨es, htr, hes⟩ hf (by rw [hc]) fun q hq' _ => hq q hq')
  | yes hc hf hq =>
    obtain ⟨q, hmem, hres⟩ := hq
    refine Or.inr ⟨hf, by rw [hc], es, htr, ?_⟩
    exact hes.okReplies_ne_nil.2 ⟨q, hmem, hcmds q hmem, hres⟩

theorem Polls.keeps_or_clears (h : Polls w w') : Keeps w w' ∨ Clears w w' := by
  cases h with
  | quiet => exact Or.inl (.of_eq rfl rfl rfl)
  | served _ hc => exact hc.keeps_or_clears
  | @failed w₁ _ _ _ hc =>
    have hd : Keeps w₁ (w₁.disconnect.setStatus .disconnected) :=
      w₁.disconnect_keeps.trans (.of_eq rfl rfl rfl)
    exact hc.keeps_or_clears.imp (·.trans hd) (·.keeps hd)

/-- An iteration of the daemon keeps the binding, or gives it up as the server has
ordered. -/
theorem DaemonStep.keeps_or_clears (hd : DaemonStep w w') : Keeps w w' ∨ Clears w w' := by
  have hset : ∀ {w : World P} {s : Status}, Keeps w (w.setStatus s) :=
    World.setStatus_keeps _ _
  cases hd with
  | initIdle _ _ hp => exact hp.keeps_or_clears
  | initBound _ _ => exact Or.inl hset
  | connectFailed _ hc _ => exact Or.inl (hc.keeps.trans hset)
  | connectUnbound _ _ hc => exact Or.inl (hc.keeps.trans (.of_eq rfl rfl rfl))
  | authFailed _ _ hc ha _ => exact Or.inl ((hc.keeps.trans ha.keeps).trans hset)
  | updateFailed _ _ hc ha hu _ =>
    exact Or.inl (((hc.keeps.trans ha.keeps).trans hu.keeps).trans hset)
  | connected _ _ hc ha hu =>
    exact Or.inl (((hc.keeps.trans ha.keeps).trans hu.keeps).trans hset)
  | dropUnbound _ _ => exact Or.inl hset
  | upToDate _ _ _ hp => exact hp.keeps_or_clears
  | refreshFailed _ _ _ _ hu _ =>
    exact Or.inl (w.taken_keeps.trans (hu.keeps.trans hset))
  | refreshed _ _ _ _ hu hp =>
    have hk := w.taken_keeps.trans hu.keeps
    exact hp.keeps_or_clears.imp hk.trans hk.clears
  | gaveUp _ _ => exact Or.inl w.disconnect_keeps
  | waiting _ _ _ _ => exact Or.inl (w.disconnect_keeps.trans (.of_eq rfl rfl rfl))
  | retry _ _ _ _ => exact Or.inl (w.disconnect_keeps.trans (.of_eq rfl rfl rfl))
  | broken _ => exact Or.inl w.disconnect_keeps
  | restart _ => exact Or.inl (w.disconnect_keeps.trans (.of_eq rfl rfl rfl))

theorem RegUsrStep.keeps {account username password : CStr}
    (hr : RegUsrStep account username password w r w') : Keeps w w' := by
  cases hr with
  | noConnection _ hc _ => exact hc.keeps
  | offline _ hc hq => exact hc.keeps.trans hq.keeps
  | online _ _ hq => exact hq.keeps
  | dropped _ _ hq =>
    exact (hq.keeps.trans (World.disconnect_keeps _)).trans (.of_eq rfl rfl rfl)

theorem UBindOnline.keeps_or_clears (hu : UBindOnline w r w') : Keeps w w' ∨ Clears w w' := by
  cases hu with
  | acknowledged hu => exact Or.inr ((hu.clears _).keeps (World.disconnect_keeps _))
  | failed hu hr =>
    exact Or.inl ((Requests.keeps hu fun _ => hr).trans (World.setStatus_disconnect_keeps _ _))

theorem UBindStep.keeps_or_clears (hu : UBindStep w r w') : Keeps w w' ∨ Clears w w' := by
  have hset : ∀ {w : World P} {s : Status}, Keeps w (w.setStatus s).disconnect :=
    World.setStatus_disconnect_keeps _ _
  cases hu with
  | notBound _ => exact Or.inl (.of_eq rfl rfl rfl)
  | noConnection _ _ hc _ => exact Or.inl (hc.keeps.trans hset)
  | authFailed _ _ hc ha _ => exact Or.inl ((hc.keeps.trans ha.keeps).trans hset)
  | offline _ _ hc ha ho =>
    have hk := hc.keeps.trans ha.keeps
    exact ho.keeps_or_clears.imp hk.trans hk.clears
  | online _ _ ho => exact ho.keeps_or_clears

/-- What a step does to the binding: nothing, it is given up, or it is new. -/
inductive BindingMove (m : Move (World P) Action) : Prop
  | keeps : Keeps m.pre m.post → bindPair m = none → BindingMove m
  | clears : Clears m.pre m.post → BindingMove m
  | binds : okReplies P P.cldcmdUbindev (m.pre.since m.post) = [] →
      bindPair m = some (m.post.conf.account, m.post.conf.password) →
      m.post.cloud.binded = true → m.post.conf.account = m.post.cloud.account →
      okReplies P P.cldcmdAuth (m.pre.since m.post) ≠ [] → BindingMove m

/-- A bind that the server has accepted persists what was sent to it. -/
theorem Connects.bound_bindingMove {user password devicename code : CStr}
    {w₂ w₃ w₄ : World P} (hc : Connects w.disconnect .succeed w₁)
    (ha : Auths (w₁.credited user password devicename) .succeed w₂)
    (hb : Requests P.cldcmdBindev (lines [w₂.cloud.devinfo.id.str, code]) w₂ .succeed w₃)
    (hu : Updates w₃ r w₄) :
    BindingMove ⟨w, .bind (some user) (some password) (some devicename), w₄.bound⟩ := by
  have hne := P.cmds_ne
  have haq : Asks w₁ w₂ w₁.cloud.fd _ := ha.asks
  have hbq := hb.asks
  have huq := hu.asks
  rw [hb.cloud_eq] at huq
  rw [Requests.cloud_eq ha] at hbq huq
  have hall := ((((w.disconnect_asks _).trans (hc.asks _)).trans haq).trans hbq).trans huq
  have hes : EventsOf P w₁.cloud.fd _ (w.since w₄.bound) := hall.since
  have hcl : w₄.cloud.account = .snprintf user ∧ w₄.cloud.password = .snprintf password ∧
      w₄.cloud.devinfo.id = w₁.cloud.devinfo.id := by
    rw [hu.cloud_eq, hb.cloud_eq, Requests.cloud_eq ha]
    exact ⟨rfl, rfl, rfl⟩
  have hauth : (w₁.cloud.fd, authText (w₁.credited user password devicename).cloud) ∈
      okReplies P P.cldcmdAuth (w.since w₄.bound) :=
    hes.mem_okReplies (List.mem_append_right _ (List.mem_append_right _
      (List.mem_append_left _ (List.mem_singleton_self _)))) rfl
  have hbind : okReplies P P.cldcmdBindev (w.since w₄.bound) ≠ [] :=
    List.ne_nil_of_mem (hes.mem_okReplies (List.mem_append_right _
      (List.mem_append_left _ (List.mem_singleton_self _))) rfl)
  have hmem : lines [(Field.snprintf user : Field P.cloudNameLen).str,
      (Field.snprintf password : Field P.cloudNameLen).str, w₄.bound.cloud.devinfo.id.str] ∈
        (okReplies P P.cldcmdAuth (w.since w₄.bound)).map Prod.snd := by
    rw [World.cloud_bound, hcl.2.2]
    exact List.mem_map_of_mem hauth
  refine .binds ?_ ((if_pos ⟨hmem, hbind⟩).trans ?_) rfl rfl (List.ne_nil_of_mem hauth)
  · exact hes.okReplies_nil (by simp; omega)
  · rw [World.conf_bound, hcl.1, hcl.2.1]

theorem BindStep.bindingMove {user password devicename : CStr}
    (hb : BindStep user password devicename w r w') :
    BindingMove ⟨w, .bind (some user) (some password) (some devicename), w'⟩ := by
  have hne := P.cmds_ne
  -- without an accepted `BINDEV` there is no new pair
  have hnone : ∀ {fd : ℤ} {qs : List Asked}, Asks w w' fd qs →
      (∀ q ∈ qs, q.cmd = P.cldcmdBindev → q.result ≠ .succeed) →
      bindPair ⟨w, .bind (some user) (some password) (some devicename), w'⟩ = none := by
    intro fd qs ha hq
    apply if_neg
    intro hn
    obtain ⟨q, hmem, hcmd, hres⟩ := ha.since.okReplies_ne_nil.1 hn.2
    exact hq q hmem hcmd hres
  cases hb with
  | refused _ _ =>
    exact .keeps (.of_eq rfl rfl rfl) (hnone (show Asks w w 0 [] from .of_eq rfl) nofun)
  | @noConnection r w₁ _ hc _ =>
    refine .keeps ((w.disconnect_keeps.trans hc.keeps).trans w₁.disconnect_keeps) ?_
    exact hnone (((w.disconnect_asks 0).trans (hc.asks 0)).trans (w₁.disconnect_asks 0)) nofun
  | @authFailed r w₁ w₂ _ hc ha _ =>
    have hk := (w₁.credited_keeps user password devicename).trans ha.keeps
    refine .keeps (((w.disconnect_keeps.trans hc.keeps).trans hk).trans w₂.disconnect_keeps) ?_
    have haq : Asks w₁ w₂ _ _ := ha.asks
    refine hnone ((((w.disconnect_asks _).trans (hc.asks _)).trans haq).trans
      (w₂.disconnect_asks _)) ?_
    simp
    omega
  | @bindFailed r w₁ w₂ w₃ _ hc ha hb hr =>
    have hk := (w₁.credited_keeps user password devicename).trans ha.keeps
    refine .keeps ((((w.disconnect_keeps.trans hc.keeps).trans hk).trans hb.keeps).trans
      w₃.disconnect_keeps) ?_
    obtain ⟨code, hb⟩ := hb
    have haq : Asks w₁ w₂ w₁.cloud.fd _ := ha.asks
    have hbq := hb.asks
    rw [Requests.cloud_eq ha] at hbq
    refine hnone (((((w.disconnect_asks _).trans (hc.asks _)).trans haq).trans hbq).trans
      (w₃.disconnect_asks _)) ?_
    have hab : P.cldcmdAuth ≠ P.cldcmdBindev := by omega
    simpa using ⟨hr, hab⟩
  | bound _ hc ha hb hu =>
    obtain ⟨code, hb⟩ := hb
    exact hc.bound_bindingMove ha hb hu

/-- **What a step does to the binding.** -/
theorem Moves.bindingMove {a : Action} (hm : Moves w a w') : BindingMove ⟨w, a, w'⟩ := by
  -- a step that keeps the binding or gives it up is not a `swCloudBind`
  have hko : ∀ {a : Action}, (∀ u p d, a ≠ .bind (some u) (some p) (some d)) →
      Keeps w w' ∨ Clears w w' → BindingMove ⟨w, a, w'⟩ := by
    intro a ha h
    rcases h with h | h
    · refine .keeps h ?_
      rw [bindPair.eq_def]
      split
      · exact absurd ‹_› (ha _ _ _)
      · rfl
    · exact .clears h
  cases hm with
  | daemon hd => exact hko nofun hd.keeps_or_clears
  | @notice a f ha _ =>
    refine hko (fun u p d he => ?_) (Or.inl (.of_eq rfl rfl rfl))
    rw [he] at ha
    cases ha
  | restart _ => exact hko nofun (Or.inl (.of_eq rfl rfl rfl))
  | ignored ha _ =>
    refine hko (fun u p d he => ?_) (Or.inl (.of_eq rfl rfl rfl))
    rw [he] at ha
    cases ha
  | regUsr hr => exact hko nofun (Or.inl hr.keeps)
  | bind hb => exact hb.bindingMove
  | ubind hu => exact hko nofun hu.keeps_or_clears
  | ping =>
    refine hko nofun (Or.inl ?_)
    rw [World.pinged]
    split <;> exact .of_eq rfl rfl rfl

theorem BindingMove.nextPair_eq {m : Move (World P) Action} (h : BindingMove m) :
    (m.post.conf.account, m.post.conf.password) =
      nextPair (m.pre.conf.account, m.pre.conf.password) m := by
  cases h with
  | keeps hk hn =>
    obtain ⟨es, htr, hes⟩ := hk.events
    rw [nextPair, World.since_eq htr, if_neg (not_not.2 hes), hn, hk.conf_eq]
    rfl
  | clears hc =>
    obtain ⟨es, htr, hes⟩ := hc.events
    rw [nextPair, World.since_eq htr, if_pos hes, hc.conf_eq]
  | binds hu hp _ _ _ =>
    rw [nextPair, if_neg (not_not.2 hu), hp]
    rfl

/-- The device is bound exactly if the persisted account is not empty. -/
def BoundIff (w : World P) : Prop := w.cloud.binded = true ↔ w.conf.account.str.bytes ≠ []

theorem BindingMove.boundIff {m : Move (World P) Action} (h : BindingMove m)
    (hne : NoEmptyAccount m) (hi : BoundIff m.pre) : BoundIff m.post := by
  cases h with
  | keeps hk _ => rwa [BoundIff, hk.binded_eq, hk.conf_eq]
  | clears hc =>
    rw [BoundIff, hc.binded_eq, hc.conf_eq]
    simp [Field.zero, CStr.read]
  | binds _ _ hb ha hok =>
    rw [BoundIff, hb, ha]
    exact ⟨fun _ he => hok (hne he), fun _ => rfl⟩

end Steps

/-! ## Runs -/

section Runs

variable {f : Conf P} {s : SysInfo P} {h : List (Move (World P) Action)} {w : World P}

/-- The test of `cloud_init` for a binding. -/
theorem cloudInit_binded (f : Conf P) :
    (cloudInit f).binded = true ↔ f.account.str.bytes ≠ [] := by
  have hnul := f.account.str.nulFree
  change decide (f.account.str.bytes.headD 0 ≠ 0) = true ↔ _
  rw [decide_eq_true_iff]
  cases hb : f.account.str.bytes with
  | nil => simp
  | cons c cs =>
    rw [hb] at hnul
    simp only [List.headD_cons, ne_eq, reduceCtorEq, not_false_eq_true, iff_true]
    rintro rfl
    simp at hnul

/-- **The binding survives a restart.**  In every state of a run in which the server has
accepted no empty account, the device is bound if and only if the persisted account is
not empty, so a restart finds it in the same condition; and what is persisted is what the
last event that may change it has left. -/
theorem binding_persisted (hr : Run f s h w) (hne : ∀ m ∈ h, NoEmptyAccount m) :
    (w.cloud.binded = true ↔ w.conf.account.str.bytes ≠ []) ∧
      (cloudInit w.conf).binded = w.cloud.binded ∧
      (w.conf.account, w.conf.password) = ledger f h := by
  have hb : BoundIff w := hr.invariant_of BoundIff hne (cloudInit_binded f)
    fun _ _ _ hi hm hs => hs.moves.bindingMove.boundIff hm hi
  refine ⟨hb, ?_, ?_⟩
  · exact Bool.eq_iff_iff.2 ((cloudInit_binded w.conf).trans hb.symm)
  · exact (hr.monitor (fun w => (w.conf.account, w.conf.password)) (fun _ => True)
      trivial (fun _ _ _ _ _ => trivial)
      fun _ _ _ _ hs => hs.moves.bindingMove.nextPair_eq).symm

/-- A run to which the law applies: the device is bound to an account. -/
theorem binding_persisted_bind : ∃ w : World sampleProtocol, w.cloud.binded = true ∧
    w.conf.account.str.bytes ≠ [] ∧ (cloudInit w.conf).binded = true := by
  obtain ⟨h, w, hr, hb, hne⟩ := exists_run (sampleConf (CStr.lit "") (CStr.lit "")) sampleInfo
    [(.bind (some (CStr.lit "u")) (some (CStr.lit "p")) (some (CStr.lit "n")), bindInputs 3)]
    (fun r => r.2.cloud.binded = true ∧ ∀ m ∈ r.1, NoEmptyAccount m) (by decide +kernel)
  have hlaw := binding_persisted hr hne
  exact ⟨w, hb, hlaw.1.1 hb, hlaw.2.1.trans hb⟩

end Runs

end SwCloud
