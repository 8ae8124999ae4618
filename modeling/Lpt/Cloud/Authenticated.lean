import Lpt.Cloud.Sent

/-!
# The connection in use is authenticated

While the status is `CONNECTED` and the device is bound, the socket is open and the
server has accepted the present credentials on this very connection.  The invariant is
kept by every step in any order, although several steps reconnect without touching the
status, or overwrite the credentials before they fail: the ones that do so leave the
status or the binding outside the law.  It is also what makes sure that every `UPDEV`
and `BINDEV` goes out on an authenticated connection.
-/

namespace SwCloud

open CLib Effect Trans

variable {P : CldProtocol}

/-- Over `fd`, on the connection opened last in the record `tr`, an `AUTH` with the text
`t` was answered with `OK`. -/
structure AuthenticatedOn (P : CldProtocol) (tr : List Event) (fd : ℤ) (t : CStr) : Prop where
  fd_ne : fd ≠ -1
  lastSocket_eq : lastSocket tr = some fd
  mem_okReplies : (fd, t) ∈ okReplies P P.cldcmdAuth (conn tr)

/-- The connection in use has been authenticated with the present credentials. -/
def Authenticated (w : World P) : Prop := AuthenticatedOn P w.trace w.cloud.fd (authText w.cloud)

/-- The condition on the packets of a step: an `UPDEV` or `BINDEV` is written on a
connection that was authenticated with `t` before. -/
def WrittenAuthenticated (P : CldProtocol) (t : CStr) (older : List Event) (fd : ℤ) (hdr : CldHdr)
    (_ : List UInt8) : Prop :=
  hdr.cmd = P.cldcmdUpdev ∨ hdr.cmd = P.cldcmdBindev → AuthenticatedOn P older fd t

section Parts

variable {w w' : World P} {r : CommonStatus} {t : CStr}

/-- Nothing but a new socket, or other credentials, ends an authenticated connection. -/
theorem Authenticated.mono (h : Authenticated w) (hfd : w'.cloud.fd = w.cloud.fd)
    (ht : authText w'.cloud = authText w.cloud) {es : List Event} (htr : w'.trace = es ++ w.trace)
    (hes : ∀ e ∈ es, e.isSocket = false) : Authenticated w' := by
  refine ⟨hfd ▸ h.fd_ne, ?_, ?_⟩
  · rw [htr, lastSocket_append hes, hfd, h.lastSocket_eq]
  · rw [htr, conn_append hes, okReplies_append, hfd, ht]
    exact List.mem_append_right _ h.mem_okReplies

theorem Authenticated.of_eq (h : Authenticated w) (hfd : w'.cloud.fd = w.cloud.fd)
    (ht : authText w'.cloud = authText w.cloud) (htr : w'.trace = w.trace) : Authenticated w' :=
  h.mono hfd ht (htr.trans (List.nil_append _).symm) nofun

theorem Requests.authenticated {cmd : ℕ} (hq : Requests cmd t w r w') (h : Authenticated w) :
    Authenticated w' := by
  obtain ⟨es, htr, hns, -⟩ := hq.events
  exact h.mono (by rw [hq.cloud_eq]) (by rw [hq.cloud_eq]) htr hns

theorem Updates.authenticated (hu : Updates w r w') (h : Authenticated w) : Authenticated w' := by
  obtain ⟨w₁, hq, rfl⟩ := hu
  have h₁ := hq.authenticated h
  split
  · exact h₁.of_eq rfl rfl rfl
  · exact h₁

/-- A successful `AUTH` on a new connection authenticates it. -/
theorem Auths.authenticated (ha : Auths w .succeed w') (hfd : w.cloud.fd ≠ -1)
    (hsock : lastSocket w.trace = some w.cloud.fd) : Authenticated w' := by
  obtain ⟨es, htr, hns, hes⟩ := Requests.events ha
  have hc := Requests.cloud_eq ha
  refine ⟨by rwa [hc], by rw [htr, lastSocket_append hns, hc, hsock], ?_⟩
  rw [htr, conn_append hns, okReplies_append, hes.okReplies_eq, hc]
  simp

/-- What a connect and a successful `AUTH` leave. -/
theorem Connects.authenticated {w₁ : World P} (hc : Connects w .succeed w₁)
    (ha : Auths w₁ .succeed w') : Authenticated w' :=
  ha.authenticated (hc.effect.fd_ne rfl) hc.effect.lastSocket_eq

/-- Polling keeps an authenticated connection, or ends the status or the binding. -/
theorem Polls.authenticated (hp : Polls w w') (hs : w'.cloud.status = .connected)
    (hb : w'.cloud.binded = true)
    (h : w.cloud.status = .connected → w.cloud.binded = true → Authenticated w) :
    Authenticated w' := by
  cases hp with
  | quiet => exact h hs hb
  | failed _ _ _ => cases hs
  | served _ hc =>
    obtain ⟨es, qs, he⟩ := hc.effect
    cases he.unbinds with
    | no hcl _ _ =>
      rw [hcl] at hs hb
      exact (h hs hb).mono (by rw [hcl]) (by rw [hcl]) he.trace_eq he.noSocket
    | yes hcl _ _ =>
      rw [hcl] at hb
      cases hb

/-! ## Packets -/

/-- Any request meets the condition on an authenticated connection. -/
theorem Requests.written {cmd : ℕ} {t' : CStr} (hq : Requests cmd t' w r w')
    (h : Authenticated w) (ht : authText w.cloud = t) :
    Writes (WrittenAuthenticated P t) w.trace w'.trace :=
  hq.writes fun _ _ _ _ => ht ▸ h

end Parts

/-! ## Steps -/

section Steps

variable {w w' : World P}

/-- One iteration of the daemon keeps the invariant. -/
theorem DaemonStep.authenticated (hd : DaemonStep w w')
    (h : w.cloud.status = .connected → w.cloud.binded = true → Authenticated w)
    (hs' : w'.cloud.status = .connected) (hb' : w'.cloud.binded = true) : Authenticated w' := by
  cases hd.connected_bound hs' hb' with
  | fresh hc ha hu hw =>
    rw [hw]
    exact (hu.authenticated (hc.authenticated ha)).of_eq rfl rfl rfl
  | polled _ _ hp => exact hp.authenticated hs' hb' h
  | refreshed hs hb hu hp =>
    exact hp.authenticated hs' hb' fun _ _ => hu.authenticated ((h hs hb).of_eq rfl rfl rfl)

theorem RegUsrStep.authenticated {account username password : CStr} {r : CommonStatus}
    (hr : RegUsrStep account username password w r w')
    (h : w.cloud.status = .connected → w.cloud.binded = true → Authenticated w)
    (hs' : w'.cloud.status = .connected) : Authenticated w' := by
  cases hr with
  | noConnection hs hc _ =>
    rw [hc.effect.cloud_eq] at hs'
    exact absurd hs' hs
  | offline hs hc hq =>
    obtain ⟨code, hq⟩ := hq
    rw [hq.cloud_eq, hc.effect.cloud_eq] at hs'
    exact absurd hs' hs
  | online hs hb hq =>
    obtain ⟨code, hq⟩ := hq
    exact hq.authenticated (h hs hb)
  | dropped _ _ _ => cases hs'

/-- What a successful bind has reached before the last exchange. -/
theorem Connects.authenticated_bind {user password devicename : CStr} {w₁ w₂ w₃ : World P}
    (hc : Connects w.disconnect .succeed w₁)
    (ha : Auths (w₁.credited user password devicename) .succeed w₂) (hb : Binds w₂ .succeed w₃) :
    Authenticated w₂ ∧ Authenticated w₃ := by
  have h₂ : Authenticated w₂ := ha.authenticated (hc.effect.fd_ne rfl) hc.effect.lastSocket_eq
  obtain ⟨code, hb⟩ := hb
  exact ⟨h₂, hb.authenticated h₂⟩

theorem BindStep.authenticated {user password devicename : CStr} {r : CommonStatus}
    (hr : BindStep user password devicename w r w')
    (h : w.cloud.status = .connected → w.cloud.binded = true → Authenticated w)
    (hs' : w'.cloud.status = .connected) (hb' : w'.cloud.binded = true) : Authenticated w' := by
  cases hr with
  | refused _ _ => exact h hs' hb'
  | noConnection hg hc _ =>
    rw [World.cloud_disconnect, hc.effect.cloud_eq, World.cloud_disconnect] at hs' hb'
    cases (hg hb').symm.trans hs'
  | authFailed hg hc ha _ =>
    rw [World.cloud_disconnect, Requests.cloud_eq ha, World.cloud_credited, hc.effect.cloud_eq,
      World.cloud_disconnect] at hs' hb'
    cases (hg hb').symm.trans hs'
  | bindFailed hg hc ha hb _ =>
    obtain ⟨code, hb⟩ := hb
    rw [World.cloud_disconnect, hb.cloud_eq, Requests.cloud_eq ha, World.cloud_credited,
      hc.effect.cloud_eq, World.cloud_disconnect] at hs' hb'
    cases (hg hb').symm.trans hs'
  | bound _ hc ha hb hu =>
    have h₃ := (hc.authenticated_bind ha hb).2
    exact (hu.authenticated h₃).of_eq rfl rfl rfl

theorem UBindStep.authenticated {r : CommonStatus} (hu : UBindStep w r w')
    (h : w.cloud.status = .connected → w.cloud.binded = true → Authenticated w)
    (hs' : w'.cloud.status = .connected) (hb' : w'.cloud.binded = true) : Authenticated w' := by
  cases hu with
  | notBound _ => exact h hs' hb'
  | noConnection _ _ _ _ => rw [World.cloud_disconnect] at hs'; cases hs'
  | authFailed _ _ _ _ _ => rw [World.cloud_disconnect] at hs'; cases hs'
  | offline _ _ _ _ ho => exact absurd hs' ho.status_ne
  | online _ _ ho => exact absurd hs' ho.status_ne

/-- Every step keeps the invariant. -/
theorem Moves.authenticated {a : Action} (hm : Moves w a w')
    (h : w.cloud.status = .connected → w.cloud.binded = true → Authenticated w)
    (hs' : w'.cloud.status = .connected) (hb' : w'.cloud.binded = true) : Authenticated w' := by
  cases hm with
  | daemon hd => exact hd.authenticated h hs' hb'
  | @notice a f ha hs =>
    refine (h hs hb').of_eq rfl ?_ rfl
    -- the handlers leave the identity of the device alone
    have hid : (f w.cloud.devinfo).id = w.cloud.devinfo.id := by
      cases a with
      | sysnameChange arg => cases arg <;> cases ha; rfl
      | passwordChange arg => cases arg <;> cases ha; rfl
      | upnpChange arg =>
        cases arg <;> cases ha
        rw [upnpInfo]
        split <;> rfl
      | _ => cases ha
    rw [authText, authText, World.cloud_notified, hid]
  | restart _ => cases hs'
  | ignored _ _ => exact h hs' hb'
  | regUsr hr => exact hr.authenticated h hs'
  | bind hr => exact hr.authenticated h hs' hb'
  | ubind hu => exact hu.authenticated h hs' hb'
  | ping =>
    rw [World.pinged] at hs' hb' ⊢
    split at hs'
    · rw [if_pos ‹_›] at hb' ⊢
      exact h hs' hb'
    · cases hs'

/-- An `UPDEV` is only sent on an authenticated connection. -/
theorem UpdatesFrom.authenticated {v : World P} (hv : UpdatesFrom w v)
    (h : w.cloud.status = .connected → w.cloud.binded = true → Authenticated w) :
    Authenticated v := by
  cases hv with
  | connected hc ha => exact hc.authenticated ha
  | refresh hs hb => exact (h hs hb).of_eq rfl rfl rfl
  | bound hc ha hb => exact (hc.authenticated_bind ha hb).2

/-- The packets of a step meet the condition. -/
theorem Moves.written {a : Action} (hm : Moves w a w')
    (h : w.cloud.status = .connected → w.cloud.binded = true → Authenticated w) :
    Writes (WrittenAuthenticated P (authText w'.cloud)) w.trace w'.trace := by
  refine hm.writes (fun _ _ _ _ h₁ h₂ hn => absurd hn (not_or.2 ⟨h₁, h₂⟩)) ?_ ?_
  · rintro v v' r ⟨hc, ha⟩ hi ⟨code, hb⟩
    exact hb.written (ha.authenticated (hc.effect.fd_ne rfl) hc.effect.lastSocket_eq)
      hi.authText_eq.symm
  · intro v v' r hv hi hu
    obtain ⟨v₁, hq, htr⟩ := hu.events_trace
    rw [htr]
    exact hq.written (hv.authenticated h) hi.authText_eq.symm

end Steps

/-! ## Runs -/

section Runs

variable {f : Conf P} {s : SysInfo P} {h : List (Move (World P) Action)} {w : World P}

/-- The invariant holds in every state of a run. -/
theorem Run.authenticated (hr : Run f s h w) :
    w.cloud.status = .connected → w.cloud.binded = true → Authenticated w :=
  hr.invariant (fun w => w.cloud.status = .connected → w.cloud.binded = true → Authenticated w)
    nofun fun _ _ _ hi hs => hs.moves.authenticated hi

/-- **The authenticated-connection law.**  In every state of every run: while the status
is `CONNECTED` and the device is bound, the connection in use has been authenticated
with the present credentials.  In every step of the run: an `UPDEV` or `BINDEV` packet
is written on a connection that has been authenticated, with the credentials of that
step, before. -/
theorem connected_authenticated (hr : Run f s h w) :
    (w.cloud.status = .connected → w.cloud.binded = true → Authenticated w) ∧
    ∀ m ∈ h, ∀ newer fd hdr payload ret older,
      m.post.trace = newer ++ .wrote fd hdr payload ret :: older → m.pre.trace <:+ older →
      hdr.cmd = P.cldcmdUpdev ∨ hdr.cmd = P.cldcmdBindev →
      AuthenticatedOn P older fd (authText m.post.cloud) := by
  refine ⟨hr.authenticated, ?_⟩
  intro m hm newer fd hdr payload ret older htr hold hcmd
  obtain ⟨hs, h', -, hr'⟩ := hr.mem_step hm
  exact (hs.moves.written (Run.authenticated hr')).spec htr hold hcmd

/-- A run to which the law applies: the device is bound, and connected. -/
theorem connected_authenticated_bind : ∃ w : World sampleProtocol,
    w.cloud.status = .connected ∧ w.cloud.binded = true ∧ Authenticated w := by
  obtain ⟨h, w, hr, hs, hb⟩ := exists_run (sampleConf (CStr.lit "") (CStr.lit "")) sampleInfo
    [(.bind (some (CStr.lit "u")) (some (CStr.lit "p")) (some (CStr.lit "n")), bindInputs 3)]
    (fun r => r.2.cloud.status = .connected ∧ r.2.cloud.binded = true) (by decide +kernel)
  exact ⟨w, hs, hb, (connected_authenticated hr).1 hs hb⟩

end Runs

end SwCloud
