import Lpt.Cloud.Run

/-!
# Open descriptors

`cloud_do_connect` stores a new socket in `cloud.fd` without closing the one that is
there.  Whether a descriptor is lost therefore depends on what its callers have done
before: `swCloudBind` disconnects first, the daemon in `CONNECTING`, `swCloudRegUsr` and
`swCloudUBind` do not.  No descriptor is lost in a run exactly if each step of these
three kinds begins without a socket.

A step is seen here only through the descriptor in use and the list of the sockets that
are open, `Desc`; `DescMove` lists what a step can do to them.
-/

namespace SwCloud

open CLib Effect Trans

variable {P : CldProtocol}

/-! ## Descriptors -/

/-- The descriptor in use, `-1` for none, and the sockets that are open. -/
structure Desc where
  fd : ℤ
  sockets : List ℤ

namespace Desc

/-- The descriptors after a disconnect. -/
def closed (d : Desc) : Desc := ⟨-1, if d.fd = -1 then d.sockets else d.sockets.erase d.fd⟩

/-- What a connect can do to the descriptors. -/
inductive Opens (d : Desc) : Desc → Prop
  | no : Opens d ⟨-1, d.sockets⟩
  | yes {fd : ℤ} : fd ≠ -1 → fd ∉ d.sockets → Opens d ⟨fd, fd :: d.sockets⟩

/-- The socket in use is open. -/
def Live (d : Desc) : Prop := d.fd ≠ -1 → d.fd ∈ d.sockets

/-- The socket in use is the only one that is open. -/
def Tidy (d : Desc) : Prop := d.sockets = if d.fd = -1 then [] else [d.fd]

variable {d d' : Desc}

theorem Opens.live (h : Opens d d') : Live d' := by
  cases h with
  | no => exact fun hn => absurd rfl hn
  | yes _ _ => exact fun _ => List.mem_cons_self ..

theorem live_closed : Live d.closed := fun hn => absurd rfl hn

theorem Tidy.closed (h : Tidy d) : Tidy d.closed := by
  rw [Tidy] at h
  rw [Tidy, Desc.closed, h]
  by_cases hfd : d.fd = -1
  · simp [hfd]
  · simp [hfd]

theorem Opens.tidy (h : Opens d d') (ht : Tidy d) (hfd : d.fd = -1) : Tidy d' := by
  rw [Tidy, if_pos hfd] at ht
  cases h with
  | no => exact ht
  | yes hne _ => rw [Tidy, if_neg hne, ht]

/-- A connect over a live socket loses it. -/
theorem Opens.lost (h : Opens d d') (hl : Live d) (hfd : d.fd ≠ -1) :
    d.fd ∈ d'.sockets ∧ d'.fd ≠ d.fd := by
  cases h with
  | no => exact ⟨hl hfd, hfd.symm⟩
  | @yes fd _ hnew =>
    refine ⟨List.mem_cons_of_mem _ (hl hfd), fun he : fd = d.fd => hnew ?_⟩
    rw [he]
    exact hl hfd

/-- A lost socket is not closed by a disconnect. -/
theorem closed_lost {fd : ℤ} (h : fd ∈ d.sockets ∧ d.fd ≠ fd) (hfd : fd ≠ -1) :
    fd ∈ d.closed.sockets ∧ d.closed.fd ≠ fd := by
  refine ⟨?_, hfd.symm⟩
  rw [closed]
  split
  · exact h.1
  · exact (List.mem_erase_of_ne h.2.symm).2 h.1

end Desc

/-- The descriptors of a world. -/
def World.desc (w : World P) : Desc := ⟨w.cloud.fd, w.sockets⟩

/-- No open socket but the one in use. -/
def NoLeak (w : World P) : Prop := ∀ fd ∈ w.sockets, fd = w.cloud.fd

instance (w : World P) : Decidable (NoLeak w) := inferInstanceAs (Decidable (∀ _ ∈ _, _))

/-- The step calls `cloud_do_connect` without a `cloud_do_disconnect` before. -/
def Reconnects (w : World P) : Action → Prop
  | .daemon => w.cloud.status = .connecting
  | .regUsr (some _) (some _) (some _) => w.cloud.status ≠ .connected
  | .ubind => w.cloud.binded = true ∧ w.cloud.status ≠ .connected
  | _ => False

/-! ## Steps -/

/-- What a step can do to the descriptors; `c` tells whether it connects without having
disconnected. -/
inductive DescMove (c : Prop) (d : Desc) : Desc → Prop
  | same : ¬ c → DescMove c d d
  | closed : ¬ c → DescMove c d d.closed
  | opened {d' : Desc} : c → d.Opens d' → DescMove c d d'
  | openedClosed {d' : Desc} : c → d.Opens d' → DescMove c d d'.closed
  | reopened {d' : Desc} : ¬ c → d.closed.Opens d' → DescMove c d d'
  | reopenedClosed {d' : Desc} : ¬ c → d.closed.Opens d' → DescMove c d d'.closed

section Steps

variable {w w' : World P} {r : CommonStatus}

theorem World.desc_disconnect (w : World P) : w.disconnect.desc = w.desc.closed := by
  rw [desc, sockets_disconnect, cloud_disconnect]
  rfl

theorem Connects.desc (hc : Connects w r w') : w.desc.Opens w'.desc := by
  have he := hc.effect
  have hd : w'.desc = ⟨w'.cloud.fd, _⟩ := congrArg (Desc.mk _) he.sockets_eq
  rw [hd]
  by_cases hfd : w'.cloud.fd = -1
  · rw [if_pos hfd, hfd]
    exact .no
  · rw [if_neg hfd]
    exact .yes hfd (he.fresh.resolve_right hfd)

theorem Requests.desc {cmd : ℕ} {t : CStr} (hq : Requests cmd t w r w') : w'.desc = w.desc := by
  rw [World.desc, hq.cloud_eq, hq.sockets_eq, World.desc]

theorem Auths.desc (ha : Auths w r w') : w'.desc = w.desc := Requests.desc ha

theorem Updates.desc (hu : Updates w r w') : w'.desc = w.desc := by
  rw [World.desc, hu.cloud_eq, hu.sockets_eq, World.desc]

theorem Polls.desc (hp : Polls w w') : w'.desc = w.desc ∨ w'.desc = w.desc.closed := by
  have key : ∀ {r : ℤ} {w₁ : World P}, Control w r w₁ → w₁.desc = w.desc := by
    intro r w₁ hc
    obtain ⟨es, qs, he⟩ := hc.effect
    rw [World.desc, he.sockets_eq]
    cases he.unbinds with
    | no hcl _ _ => rw [hcl, World.desc]
    | yes hcl _ _ => rw [hcl, World.desc]
  cases hp with
  | quiet => exact Or.inl rfl
  | served _ hc => exact Or.inl (key hc)
  | @failed w₁ _ _ _ hc =>
    apply Or.inr
    rw [← key hc, ← w₁.desc_disconnect]
    rfl

theorem DescMove.of_same {c : Prop} {d d' : Desc} (hc : ¬ c) (h : d' = d) : DescMove c d d' :=
  h ▸ .same hc

theorem DescMove.of_closed {c : Prop} {d d' : Desc} (hc : ¬ c) (h : d' = d.closed) :
    DescMove c d d' :=
  h ▸ .closed hc

theorem Polls.descMove {c : Prop} (hp : Polls w w') (hc : ¬ c) : DescMove c w.desc w'.desc :=
  hp.desc.elim (.of_same hc) (.of_closed hc)

theorem DaemonStep.desc (hd : DaemonStep w w') :
    DescMove (Reconnects w .daemon) w.desc w'.desc := by
  have hn : ∀ {s : Status}, w.cloud.status = s → s ≠ .connecting → ¬ Reconnects w .daemon :=
    fun hs hne hc => hne (hs.symm.trans hc)
  cases hd with
  | initIdle hs _ hp => exact hp.descMove (hn hs nofun)
  | initBound hs _ => exact .same (hn hs nofun)
  | connectFailed hs hc _ => exact .opened hs hc.desc
  | connectUnbound hs _ hc => exact .opened hs hc.desc
  | authFailed hs _ hc ha _ => exact .opened hs ((ha.desc).symm ▸ hc.desc)
  | updateFailed hs _ hc ha hu _ =>
    exact .opened hs (hu.desc.symm ▸ (ha.desc).symm ▸ hc.desc)
  | connected hs _ hc ha hu =>
    exact .opened hs (hu.desc.symm ▸ (ha.desc).symm ▸ hc.desc)
  | dropUnbound hs _ => exact .same (hn hs nofun)
  | upToDate hs _ _ hp => exact hp.descMove (hn hs nofun)
  | refreshFailed hs _ _ _ hu _ => exact .of_same (hn hs nofun) hu.desc
  | refreshed hs _ _ _ hu hp =>
    have h := hp.descMove (hn hs nofun)
    rw [hu.desc] at h
    exact h
  | gaveUp hs _ => exact .of_closed (hn hs nofun) w.desc_disconnect
  | waiting hs _ _ _ => exact .of_closed (hn hs nofun) w.desc_disconnect
  | retry hs _ _ _ => exact .of_closed (hn hs nofun) w.desc_disconnect
  | broken hs => exact .of_closed (hn hs nofun) w.desc_disconnect
  | restart hs => exact .of_closed (hn hs nofun) w.desc_disconnect

theorem RegUsrStep.desc {account username password : CStr}
    (hr : RegUsrStep account username password w r w') :
    DescMove (w.cloud.status ≠ .connected) w.desc w'.desc := by
  cases hr with
  | noConnection hs hc _ => exact .opened hs hc.desc
  | offline hs hc hq =>
    obtain ⟨code, hq⟩ := hq
    exact .opened hs (hq.desc.symm ▸ hc.desc)
  | online hs _ hq =>
    obtain ⟨code, hq⟩ := hq
    exact .of_same (not_not.2 hs) hq.desc
  | @dropped w₁ hs _ hq =>
    obtain ⟨code, hq⟩ := hq
    refine .of_closed (not_not.2 hs) ?_
    rw [← hq.desc, ← w₁.desc_disconnect]
    rfl

theorem BindStep.desc {user password devicename : CStr} {c : Prop} (hn : ¬ c)
    (hb : BindStep user password devicename w r w') : DescMove c w.desc w'.desc := by
  have hd : ∀ {r : CommonStatus} {w₁ : World P}, Connects w.disconnect r w₁ →
      w.desc.closed.Opens w₁.desc := fun hc => w.desc_disconnect ▸ hc.desc
  cases hb with
  | refused _ _ => exact .same hn
  | noConnection _ hc _ => rw [World.desc_disconnect]; exact .reopenedClosed hn (hd hc)
  | @authFailed r w₁ w₂ _ hc ha _ =>
    have h₂ : w₂.desc = w₁.desc := ha.desc
    rw [World.desc_disconnect, h₂]
    exact .reopenedClosed hn (hd hc)
  | @bindFailed r w₁ w₂ w₃ _ hc ha hb _ =>
    obtain ⟨code, hb⟩ := hb
    have h₃ : w₃.desc = w₁.desc := hb.desc.trans (ha.desc)
    rw [World.desc_disconnect, h₃]
    exact .reopenedClosed hn (hd hc)
  | @bound r w₁ w₂ w₃ w₄ _ hc ha hb hu =>
    obtain ⟨code, hb⟩ := hb
    have h₄ : w₄.bound.desc = w₁.desc := hu.desc.trans (hb.desc.trans (ha.desc))
    rw [h₄]
    exact .reopened hn (hd hc)

theorem UBindOnline.desc (hu : UBindOnline w r w') : w'.desc = w.desc.closed := by
  cases hu with
  | acknowledged hu =>
    rw [World.desc_disconnect, ← Requests.desc hu]
    rfl
  | failed hu _ =>
    rw [World.desc_disconnect, ← Requests.desc hu]
    rfl

theorem UBindStep.desc (hu : UBindStep w r w') :
    DescMove (w.cloud.binded = true ∧ w.cloud.status ≠ .connected) w.desc w'.desc := by
  cases hu with
  | notBound hb => exact .same fun hn => by rw [hb] at hn; cases hn.1
  | noConnection hb hs hc _ =>
    rw [World.desc_disconnect]
    exact .openedClosed ⟨hb, hs⟩ hc.desc
  | @authFailed r w₁ w₂ hb hs hc ha _ =>
    have h₂ : (w₂.setStatus .broken).desc = w₁.desc := ha.desc
    rw [World.desc_disconnect, h₂]
    exact .openedClosed ⟨hb, hs⟩ hc.desc
  | @offline r w₁ w₂ w₃ hb hs hc ha ho =>
    have h₂ : w₂.desc = w₁.desc := ha.desc
    rw [ho.desc, h₂]
    exact .openedClosed ⟨hb, hs⟩ hc.desc
  | online _ hs ho => exact .of_closed (fun hn => hn.2 hs) ho.desc

/-- **What a step does to the descriptors.** -/
theorem Moves.desc {a : Action} (hm : Moves w a w') :
    DescMove (Reconnects w a) w.desc w'.desc := by
  cases hm with
  | daemon hd => exact hd.desc
  | @notice a f ha _ =>
    refine .of_same (fun hn => ?_) rfl
    cases a <;> first | cases ha | exact hn
  | restart _ => exact .of_same (fun hn => hn) rfl
  | @ignored a ha _ =>
    refine .same fun hn => ?_
    -- an action that connects has all its arguments
    rw [Reconnects.eq_def] at hn
    split at hn <;> first | cases ha | exact hn
  | regUsr hr => exact hr.desc
  | bind hb => exact hb.desc fun hn => hn
  | ubind hu => exact hu.desc
  | ping =>
    refine .of_same (fun hn => hn) ?_
    rw [World.pinged]
    split <;> rfl

theorem DescMove.live {c : Prop} {d d' : Desc} (h : DescMove c d d') (hd : d.Live) : d'.Live := by
  cases h with
  | same _ => exact hd
  | closed _ => exact Desc.live_closed
  | opened _ ho => exact ho.live
  | openedClosed _ _ => exact Desc.live_closed
  | reopened _ ho => exact ho.live
  | reopenedClosed _ _ => exact Desc.live_closed

theorem DescMove.tidy {c : Prop} {d d' : Desc} (h : DescMove c d d') (hc : c → d.fd = -1)
    (hd : d.Tidy) : d'.Tidy := by
  cases h with
  | same _ => exact hd
  | closed _ => exact hd.closed
  | opened hy ho => exact ho.tidy hd (hc hy)
  | openedClosed hy ho => exact (ho.tidy hd (hc hy)).closed
  | reopened _ ho => exact ho.tidy hd.closed rfl
  | reopenedClosed _ ho => exact (ho.tidy hd.closed rfl).closed

/-- A step that connects over a live socket loses it. -/
theorem DescMove.lost {c : Prop} {d d' : Desc} (h : DescMove c d d') (hc : c) (hd : d.Live)
    (hfd : d.fd ≠ -1) : d.fd ∈ d'.sockets ∧ d'.fd ≠ d.fd := by
  cases h with
  | same hn => exact absurd hc hn
  | closed hn => exact absurd hc hn
  | opened _ ho => exact ho.lost hd hfd
  | openedClosed _ ho => exact Desc.closed_lost (ho.lost hd hfd) hfd
  | reopened hn _ => exact absurd hc hn
  | reopenedClosed hn _ => exact absurd hc hn

theorem noLeak_of_tidy (h : w.desc.Tidy) : NoLeak w := by
  have h : w.sockets = if w.cloud.fd = -1 then [] else [w.cloud.fd] := h
  intro fd hfd
  rw [h] at hfd
  split at hfd
  · simp at hfd
  · simpa using hfd

end Steps

/-! ## Runs -/

section Runs

variable {f : Conf P} {s : SysInfo P} {h : List (Move (World P) Action)} {w : World P}

/-- In every state of a run the socket in use is open. -/
theorem Run.live (hr : Run f s h w) : w.desc.Live :=
  hr.invariant (fun w => w.desc.Live) (fun hn => absurd rfl hn)
    fun _ _ _ hi hs => hs.moves.desc.live hi

/-- **When descriptors are lost.**  In every state of a run no socket is open but the one
in use, if and only if each step of the run that connects without having disconnected
begins without a socket. -/
theorem noLeak_iff (hr : Run f s h w) :
    (∀ h' w', h' <:+ h → Run f s h' w' → NoLeak w') ↔
      ∀ m ∈ h, Reconnects m.pre m.label → m.pre.cloud.fd = -1 := by
  constructor
  · intro hall m hm hc
    by_contra hfd
    obtain ⟨hs, h', hsuf, hr'⟩ := hr.mem_step hm
    obtain ⟨hmem, hne⟩ := hs.moves.desc.lost hc (Run.live hr') hfd
    exact hne (hall _ _ hsuf (hr'.snoc hs) _ hmem).symm
  · intro hc h' w' hsuf hr'
    apply noLeak_of_tidy
    exact hr'.invariant_of (fun w => w.desc.Tidy) (fun m hm => hc m (hsuf.subset hm)) rfl
      fun _ _ _ hi hm hs => hs.moves.desc.tidy hm hi

/-- A run to which the condition applies: the device is bound, and no socket is lost. -/
theorem noLeak_bind : ∃ w : World sampleProtocol, w.sockets ≠ [] ∧ NoLeak w := by
  obtain ⟨h, w, hr, hs, hc⟩ := exists_run (sampleConf (CStr.lit "") (CStr.lit "")) sampleInfo
    [(.bind (some (CStr.lit "u")) (some (CStr.lit "p")) (some (CStr.lit "n")), bindInputs 3)]
    (fun r => r.2.sockets ≠ [] ∧ ∀ m ∈ r.1, m.pre.cloud.fd = -1) (by decide +kernel)
  exact ⟨w, hs, (noLeak_iff hr).2 (fun m hm _ => hc m hm) h w List.suffix_rfl hr⟩

/-- Two registrations of an unbound device: the socket of the first one stays open. -/
theorem leak_regUsr_regUsr : ¬ ∀ (f : Conf sampleProtocol) (s : SysInfo sampleProtocol)
    (h : List (Move (World sampleProtocol) Action)) (w : World sampleProtocol),
    Run f s h w → NoLeak w := by
  intro hall
  let regUsr := Action.regUsr (some (CStr.lit "a")) (some (CStr.lit "u")) (some (CStr.lit "p"))
  obtain ⟨h, w, hr, hleak⟩ := exists_run (sampleConf (CStr.lit "") (CStr.lit "")) sampleInfo
    [(regUsr, regUsrInputs 3), (regUsr, regUsrInputs 4)]
    (fun r => ¬ NoLeak r.2) (by decide +kernel)
  exact hleak (hall _ _ _ _ hr)

end Runs

end SwCloud
