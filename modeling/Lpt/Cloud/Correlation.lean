import Lpt.Cloud.Network

/-!
# Requests and their replies

`cloud_send_packet` takes the next packet of the connection as the reply to its request,
whatever that packet is: the header is not looked at, `cloud.lock` is not held, and
`cloud.fd` is read once more.  So the reply is its own only as long as nothing else is on
the connection, and nothing else is done to it (`Calm`).  Under this condition a waiting
thread is always in one of two situations (`Net.Awaits`): the server has its request and
the connection is empty, or the reply is at the front of it.
-/

namespace SwCloud

open CLib Effect Trans

variable {P : CldProtocol}

/-! ## The law -/

/-- `cloud_send_packet` has accepted nothing but the reply to its own request, and DEVCTL
requests were taken by `network_device_control` only. -/
structure Correlated (n : Net P) : Prop where
  replies : ∀ k ∈ n.taken, ∀ id res, k.reader = .request id → k.accepted = some res →
    ∃ j, id = some j ∧ (j, res) ∈ n.answers
  controls : ∀ k ∈ n.taken, .devctl ∈ k.bytes.map Prod.snd → k.reader = .control

/-- The operation is part of a `cloud_do_connect`, reads a packet, or sends a request. -/
def Op.Disturbs (c : Cloud P) : Op P → Prop
  | .modify f => (f c).fd ≠ c.fd ∧ (f c).fd ≠ -1
  | .socket | .connect _ | .readGreeting _ | .recvPacket .. => True
  | .tcpWrite _ hdr _ => IsRequest P hdr
  | _ => False

instance (c : Cloud P) : (o : Op P) → Decidable (o.Disturbs c)
  | .modify f => inferInstanceAs (Decidable ((f c).fd ≠ c.fd ∧ (f c).fd ≠ -1))
  | .socket | .connect _ | .readGreeting _ | .recvPacket .. => .isTrue trivial
  | .tcpWrite _ hdr _ => inferInstanceAs (Decidable (IsRequest P hdr))
  | .get | .getStatus | .setStatus _ | .getUpdate | .setUpdate _ | .lock | .unlock | .close _
  | .select .. | .sleep _ | .stack _ | .logTooLarge _ | .crash | .sysConfGetLong _
  | .sysConfSetString .. | .swSystemSetProductName _ | .swSystemSetProductNameCheck _
  | .swVideoCtrlGetResolution | .swVideoCtrlSetResolution .. => .isFalse id

/-- A request is sent over `cloud.fd`, with no reply outstanding and nothing unread on the
connection; the greeting is read before a DEVCTL request has arrived behind it. -/
def Net.Clear (n : Net P) : Op P → Prop
  | .tcpWrite fd hdr _ => IsRequest P hdr → fd ∈ n.world.sockets →
      (n.world.cloud.fd = fd ∨ n.world.cloud.fd = -1) ∧ n.conns fd = ⟨[], []⟩
  | .readGreeting fd => .devctl ∉ (n.conns fd).inbox.map Prod.snd
  | _ => True

instance (n : Net P) : (o : Op P) → Decidable (n.Clear o)
  | .tcpWrite .. => inferInstanceAs (Decidable (_ → _))
  | .readGreeting _ => inferInstanceAs (Decidable (¬ _))
  | .get | .modify _ | .getStatus | .setStatus _ | .getUpdate | .setUpdate _ | .lock | .unlock
  | .socket | .connect _ | .close _ | .recvPacket .. | .select .. | .sleep _ | .stack _
  | .logTooLarge _ | .crash | .sysConfGetLong _ | .sysConfSetString ..
  | .swSystemSetProductName _ | .swSystemSetProductNameCheck _ | .swVideoCtrlGetResolution
  | .swVideoCtrlSetResolution .. => .isTrue trivial

/-- The steps that keep an exchange to itself: while one thread waits for its reply the
other one neither connects nor reads a packet nor sends a request; requests are sent on a
clear connection; and the server sends a DEVCTL request only on a connection on which it
owes no reply. -/
def Calm (c : Sys P) : NetAct P → Prop
  | .exec t _ => ∀ o ∈ (c.prog t).next,
      ((c.shared.waiting t.other).isSome → ¬ o.Disturbs c.shared.world.cloud) ∧ c.shared.Clear o
  | .devctl fd _ => (c.shared.conns fd).owed = []
  | .begin .. | .reply .. => True

instance (c : Sys P) : (a : NetAct P) → Decidable (Calm c a)
  | .exec t _ => inferInstanceAs (Decidable (∀ o ∈ (c.prog t).next, _))
  | .devctl .. => inferInstanceAs (Decidable (_ = _))
  | .begin .. | .reply .. => .isTrue trivial

/-! ## The invariant -/

/-- The reply to the request `id` is the next thing on the connection `fd`, or it is the
only thing that is still to come. -/
def Net.Awaits (n : Net P) (fd : ℤ) (id : ℕ) : Prop :=
  n.conns fd = ⟨[id], []⟩ ∨
    (n.conns fd).owed = [] ∧ ∃ (q : ServerPacket P) (rest : List (UInt8 × Source)),
      (id, q.payload) ∈ n.answers ∧
      (n.conns fd).inbox = (q.bytes.map fun b => (b, .reply id)) ++ rest

/-- What the phase of a thread means. -/
def Net.InPhase (n : Net P) (t : Tid) : Phase → Prop
  | .idle => n.waiting t = none
  | .asked => ∃ fd id, n.waiting t = some (fd, id) ∧
      (n.world.cloud.fd = fd ∨ n.world.cloud.fd = -1) ∧ n.Awaits fd id
  | .reading fd' => ∃ fd id, n.waiting t = some (fd, id) ∧ (fd' = fd ∨ fd' = -1) ∧ n.Awaits fd id

/-- The invariant of calm runs. -/
structure Orderly (c : Sys P) : Prop where
  phases : c.Disciplined (exchange P) .idle Net.InPhase
  noSocket : -1 ∉ c.shared.world.sockets
  correlated : Correlated c.shared

section Steps

variable {n n' : Net P} {t t' : Tid} {o : Op P} {i : Input} {x : Ans P o} {w w' : World P}

/-! ### What an operation leaves alone -/

/-- Only a change of the struct changes `cloud.fd`, and no operation opens the descriptor
`-1`. -/
theorem handle_fd_sockets (h : handle P o i w = some (x, w')) :
    ((∀ f, o ≠ .modify f) → w'.cloud.fd = w.cloud.fd) ∧ (-1 ∉ w.sockets → -1 ∉ w'.sockets) := by
  cases handle_cases h with
  | same => exact ⟨fun _ => rfl, id⟩
  | modified f hf => exact ⟨fun hn => absurd hf (hn f), id⟩
  | flagged f _ hfd => exact ⟨fun _ => hfd w.cloud, id⟩
  | logged e => exact ⟨fun _ => rfl, id⟩
  | opened fd h0 =>
    refine ⟨fun _ => rfl, ?_⟩
    intro hn
    rw [World.sockets_opened, List.mem_cons, not_or]
    exact ⟨by omega, hn⟩
  | closed fd => exact ⟨fun _ => rfl, fun hn hm => hn (List.mem_of_mem_erase hm)⟩
  | configured key v =>
    rw [World.cloud_setConf, World.sockets_setConf]
    exact ⟨fun _ => rfl, id⟩

/-- The parts of the network that matter to a thread that waits are unchanged. -/
structure Net.Untouched (n n' : Net P) : Prop where
  conns_eq : n'.conns = n.conns
  waiting_eq : n'.waiting = n.waiting
  answers_eq : n'.answers = n.answers
  fd_eq : n'.world.cloud.fd = n.world.cloud.fd ∨ n'.world.cloud.fd = -1

/-- An operation that disturbs no exchange leaves the connections alone, and `cloud.fd` is
as before or `-1`. -/
theorem handleNet_untouched (hd : ¬ o.Disturbs n.world.cloud)
    (h : handleNet P t o i n = some (x, n')) : n.Untouched n' := by
  obtain ⟨w, hw, -, rfl⟩ :=
    handleNet_other (fun rc fd res ho => by rw [ho] at hd; exact hd trivial) h
  have heff : (n.effect t o x).conns = n.conns ∧ (n.effect t o x).waiting = n.waiting ∧
      (n.effect t o x).answers = n.answers := by
    cases o with
    | socket | connect _ | readGreeting _ | recvPacket _ _ _ => exact absurd trivial hd
    | tcpWrite fd hdr payload =>
      have hif : ¬ (x = 0 ∧ IsRequest P hdr) := fun hx => hd hx.2
      simp only [Net.effect, if_neg hif, and_self]
    | _ => exact ⟨rfl, rfl, rfl⟩
  refine ⟨heff.1, heff.2.1, heff.2.2, ?_⟩
  by_cases hm : ∀ f, o ≠ .modify f
  · exact Or.inl ((handle_fd_sockets hw).1 hm)
  · simp only [not_forall, not_not] at hm
    obtain ⟨f, rfl⟩ := hm
    cases hw
    show (f n.world.cloud).fd = n.world.cloud.fd ∨ (f n.world.cloud).fd = -1
    by_cases hf : (f n.world.cloud).fd = n.world.cloud.fd
    · exact Or.inl hf
    · exact Or.inr (not_not.1 fun h1 => hd ⟨hf, h1⟩)

/-- Only a request that is sent, and a reply that is read, change what a thread waits
for. -/
theorem handleNet_waiting_outside (ho : o.outside) (h : handleNet P t o i n = some (x, n')) :
    n'.waiting = n.waiting := by
  by_cases hr : ∀ rc fd res, o ≠ .recvPacket rc fd res
  · obtain ⟨w, -, -, rfl⟩ := handleNet_other hr h
    show (n.effect t o x).waiting = n.waiting
    cases o with
    | tcpWrite _ _ _ => exact ho.elim
    | socket | connect _ =>
      simp only [Net.effect]
      split_ifs <;> rfl
    | _ => rfl
  · simp only [not_forall, not_not] at hr
    obtain ⟨rc, fd, res, rfl⟩ := hr
    obtain ⟨s, es, r, rfl, -, -, rfl⟩ := handleNet_recvPacket h
    cases rc with
    | reply hdr payload => exact ho.elim
    | control => rfl

/-- A request that has been written: its number is the next one, and it is owed on the
connection. -/
theorem handleNet_tcpWrite {fd : ℤ} {hdr : CldHdr} {payload : List UInt8} {x : ℤ}
    (h : handleNet P t (.tcpWrite fd hdr payload) i n = some (x, n')) :
    n'.world.cloud.fd = n.world.cloud.fd ∧
      (x = 0 → fd ∈ n.world.sockets) ∧
      (x = 0 ∧ IsRequest P hdr → n'.waiting = (n.asked t fd).waiting ∧
        n'.conns = (n.asked t fd).conns) ∧
      (¬ (x = 0 ∧ IsRequest P hdr) → n'.waiting = n.waiting) := by
  obtain ⟨w, hw, -, rfl⟩ := handleNet_other (fun _ _ _ => by simp) h
  refine ⟨(handle_fd_sockets hw).1 (by simp), ?_, ?_, ?_⟩
  · intro hx
    by_contra hfd
    cases i with
    | writes es =>
      change (if fd ∈ n.world.sockets then _ else some (-1, _)) = _ at hw
      rw [if_neg hfd] at hw
      cases hw
      cases hx
    | _ => cases hw
  · intro hx
    simp only [Net.effect, if_pos hx, and_self]
  · intro hx
    simp only [Net.effect, if_neg hx]

/-- A thread waits for its own requests only. -/
theorem handleNet_waiting_ne (ht : t' ≠ t) (h : handleNet P t o i n = some (x, n')) :
    n'.waiting t' = n.waiting t' := by
  by_cases ho : o.outside
  · rw [handleNet_waiting_outside ho h]
  · cases o with
    | tcpWrite fd hdr payload =>
      obtain ⟨-, -, hyes, hno⟩ := handleNet_tcpWrite h
      by_cases hx : x = 0 ∧ IsRequest P hdr
      · rw [(hyes hx).1]
        exact Function.update_of_ne ht ..
      · rw [hno hx]
    | recvPacket rc fd res =>
      cases rc with
      | reply hdr payload =>
        obtain ⟨s, es, r, rfl, -, -, rfl⟩ := handleNet_recvPacket h
        exact Function.update_of_ne ht ..
      | control => exact absurd trivial ho
    | _ => exact absurd trivial ho

theorem Net.Awaits.of_eq {fd : ℤ} {id : ℕ} (h : n.Awaits fd id) (hc : n'.conns = n.conns)
    (ha : n'.answers = n.answers) : n'.Awaits fd id := by
  unfold Net.Awaits at h ⊢
  rw [hc, ha]
  exact h

/-- A phase other than the idle one is one in which the thread waits. -/
theorem Net.InPhase.idle_of_none {s : Phase} (h : n.InPhase t s) (hw : n.waiting t = none) :
    s = .idle := by
  cases s with
  | idle => rfl
  | asked | reading _ =>
    obtain ⟨fd, id, hs, -⟩ := h
    rw [hw] at hs
    cases hs

theorem Net.InPhase.untouched {s : Phase} (h : n.InPhase t s) (hu : n.Untouched n') :
    n'.InPhase t s := by
  cases s with
  | idle => exact (congrFun hu.waiting_eq t).trans h
  | asked =>
    obtain ⟨fd, id, hs, hfd, ha⟩ := h
    refine ⟨fd, id, (congrFun hu.waiting_eq t).trans hs, ?_, ha.of_eq hu.conns_eq hu.answers_eq⟩
    rcases hu.fd_eq with he | he
    · rw [he]
      exact hfd
    · exact Or.inr he
  | reading fd' =>
    obtain ⟨fd, id, hs, hfd, ha⟩ := h
    exact ⟨fd, id, (congrFun hu.waiting_eq t).trans hs, hfd, ha.of_eq hu.conns_eq hu.answers_eq⟩

/-! ### One operation of a thread in a calm step -/

/-- **The thread's own operation** brings it to the phase that the discipline names. -/
theorem handleNet_own {s : Phase} {f : Ans P o → Phase} (hf : exchange P s o = some f)
    (hs : n.InPhase t s) (hclear : n.Clear o) (h : handleNet P t o i n = some (x, n')) :
    n'.InPhase t (f x) := by
  cases s with
  | idle =>
    by_cases ho : o.outside
    · rw [exchange_outside ho, Option.some.injEq] at hf
      rw [← hf]
      show n'.waiting t = none
      rw [handleNet_waiting_outside ho h]
      exact hs
    · cases o with
      | tcpWrite fd hdr payload =>
        obtain ⟨hcfd, hopen, hyes, hno⟩ := handleNet_tcpWrite h
        cases hf
        by_cases hx : x = 0 ∧ IsRequest P hdr
        · obtain ⟨hfd, hconn⟩ := hclear hx.2 (hopen hx.1)
          obtain ⟨hwait, hconns⟩ := hyes hx
          simp only [if_pos hx]
          refine ⟨fd, n.sent, ?_, hcfd ▸ hfd, Or.inl ?_⟩
          · rw [hwait]
            exact Function.update_self ..
          · rw [hconns]
            simp only [Net.asked, Function.update_self, hconn, List.nil_append]
        · simp only [if_neg hx]
          show n'.waiting t = none
          rw [hno hx]
          exact hs
      | recvPacket rc fd res =>
        cases rc with
        | reply hdr payload => cases hf
        | control => exact absurd trivial ho
      | _ => exact absurd trivial ho
  | asked =>
    cases o with
    | get =>
      obtain ⟨w, hw, -, rfl⟩ := handleNet_other (fun _ _ _ => by simp) h
      cases hf
      cases hw
      exact hs
    | _ => cases hf
  | reading fd' =>
    cases o with
    | recvPacket rc fd res =>
      cases rc with
      | reply hdr payload =>
        obtain ⟨s, es, r, rfl, -, -, rfl⟩ := handleNet_recvPacket h
        simp only [exchange] at hf
        split_ifs at hf
        cases hf
        exact Function.update_self ..
      | control => cases hf
    | _ => cases hf

/-- **The reply is read.**  A thread that awaits the reply to its request, and reads from
the connection it was sent on or from none, takes bytes of this reply only, and accepts
nothing but its payload. -/
theorem Net.Awaits.recv {fd fd' : ℤ} {id : ℕ} {res : List UInt8} {es : List ReadEv}
    {r : RecvResult} (ha : n.Awaits fd id) (hfd : fd' = fd ∨ fd' = -1)
    (hno : -1 ∉ n.world.sockets) (hr : n.recv fd' res es = some r) :
    (∀ b ∈ (n.conns fd').inbox.take ((n.conns fd').inbox.length - r.stream.length),
      b.2 = .reply id) ∧
    ∀ p, acceptedPayload P r.ret r.mem = some p → (id, p) ∈ n.answers := by
  have hfail : r.ret = -1 → ∀ p, acceptedPayload P r.ret r.mem = some p → (id, p) ∈ n.answers := by
    intro hret p hp
    rw [hret, acceptedPayload, if_pos (by decide)] at hp
    cases hp
  unfold Net.recv at hr
  split_ifs at hr with hopen
  · obtain rfl : fd' = fd := by
      rcases hfd with h | h
      · exact h
      · rw [h] at hopen
        exact absurd hopen hno
    rcases ha with hempty | ⟨-, q, rest, hq, hin⟩
    · rw [hempty] at hr ⊢
      obtain ⟨hret, -⟩ := cloudRecvPacket_nil hr
      exact ⟨by simp, hfail hret⟩
    · have hstream : (n.conns fd').stream = q.bytes ++ rest.map Prod.fst := by
        rw [Conn.stream, hin, List.map_append, List.map_map]
        simp only [Function.comp_def, List.map_id']
      rw [hstream] at hr
      obtain ⟨k, hk, hrest, hacc⟩ := cloudRecvPacket_front q hr
      have hcount : (n.conns fd').inbox.length - r.stream.length = k := by
        rw [hrest, hin]
        simp only [List.length_append, List.length_map, List.length_drop]
        omega
      refine ⟨?_, ?_⟩
      · intro b hb
        rw [hcount, hin, List.take_append_of_le_length (by rw [List.length_map]; exact hk)] at hb
        obtain ⟨c, -, rfl⟩ := List.mem_map.1 (List.mem_of_mem_take hb)
        rfl
      · intro p hp
        by_cases hneg : r.ret < 0
        · rw [acceptedPayload, if_pos hneg] at hp
          cases hp
        · rw [hacc (by omega), Option.some.injEq] at hp
          rw [← hp]
          exact hq
  · cases hr
    refine ⟨?_, hfail rfl⟩
    intro b hb
    rw [Conn.stream, List.length_map, Nat.sub_self, List.take_zero] at hb
    cases hb

/-- One more read that is as it should be. -/
theorem Correlated.cons {k : Taken} (hc : Correlated n) (ha : n'.answers = n.answers)
    (ht : n'.taken = k :: n.taken)
    (hk : ∀ id res, k.reader = .request id → k.accepted = some res →
      ∃ j, id = some j ∧ (j, res) ∈ n.answers)
    (hk' : .devctl ∈ k.bytes.map Prod.snd → k.reader = .control) : Correlated n' where
  replies k' hk₁ id res := by
    rw [ha]
    rw [ht] at hk₁
    rcases List.mem_cons.1 hk₁ with rfl | hm
    · exact hk id res
    · exact hc.replies k' hm id res
  controls k' hk₁ := by
    rw [ht] at hk₁
    rcases List.mem_cons.1 hk₁ with rfl | hm
    · exact hk'
    · exact hc.controls k' hm

theorem Correlated.of_eq (hc : Correlated n) (ha : n'.answers = n.answers)
    (ht : n'.taken = n.taken) : Correlated n' where
  replies := by rw [ha, ht]; exact hc.replies
  controls := by rw [ht]; exact hc.controls

/-- **One operation keeps the law**, if its thread is in its phase and the connection is
clear. -/
theorem handleNet_correlated {s : Phase} {f : Ans P o → Phase} (hf : exchange P s o = some f)
    (hs : n.InPhase t s) (hno : -1 ∉ n.world.sockets) (hclear : n.Clear o)
    (h : handleNet P t o i n = some (x, n')) (hc : Correlated n) : Correlated n' := by
  by_cases hr : ∀ rc fd res, o ≠ .recvPacket rc fd res
  · obtain ⟨w, -, -, rfl⟩ := handleNet_other hr h
    cases o with
    | readGreeting fd =>
      refine hc.cons rfl rfl nofun fun hb => absurd ?_ hclear
      exact List.map_subset _ (List.take_subset _ _) hb
    | socket | connect _ | tcpWrite _ _ _ =>
      simp only [Net.effect]
      split_ifs <;> exact hc.of_eq rfl rfl
    | _ => exact hc.of_eq rfl rfl
  · simp only [not_forall, not_not] at hr
    obtain ⟨rc, fd, res, rfl⟩ := hr
    obtain ⟨s', es, r, rfl, hrecv, -, rfl⟩ := handleNet_recvPacket h
    cases rc with
    | control => exact hc.cons rfl rfl nofun fun _ => rfl
    | reply hdr payload =>
      -- a reply is read in one phase only
      cases s with
      | idle | asked => cases hf
      | reading fd' =>
        simp only [exchange] at hf
        split_ifs at hf with hfd
        obtain ⟨fd₀, id, hwait, hfd₀, ha⟩ := hs
        rw [← hfd] at hfd₀
        obtain ⟨hbytes, hacc⟩ := ha.recv hfd₀ hno hrecv
        refine hc.cons rfl rfl ?_ ?_
        · rintro _ p hid hp
          cases hid
          exact ⟨id, by rw [hwait]; rfl, hacc p hp⟩
        · intro hb
          obtain ⟨b, hb, hsrc⟩ := List.mem_map.1 hb
          rw [hbytes b hb] at hsrc
          cases hsrc

end Steps

/-! ## Calm runs -/

section Runs

variable {c c' : Sys P} {f : Conf P} {s : SysInfo P} {greeting : List UInt8}

/-- The program of an action that a thread may be asked for leaves no exchange
unfinished. -/
theorem tidy_prog {t : Tid} {a : Action} (h : t.Runs a) : Tidy (a.prog P) := by
  cases t with
  | daemon =>
    cases a with
    | daemon => exact tidy_cloudDaemon
    | _ => exact h.elim
  | caller =>
    cases a with
    | regUsr account username password =>
      exact .bind (tidy_swCloudRegUsr ..) fun _ => tidy_pure _
    | ubind => exact .bind tidy_swCloudUBind fun _ => tidy_pure _
    | _ => exact h.elim

theorem Tid.eq_other {t t' : Tid} (h : t' ≠ t) : t' = t.other := by
  cases t <;> cases t' <;> first | rfl | exact absurd rfl h

/-- The server's packets change nothing for a thread that waits, except that its reply may
arrive. -/
theorem Net.Awaits.answered {n : Net P} {fd fd' : ℤ} {id id' : ℕ} {q : ServerPacket P}
    (h : n.Awaits fd id) (hid : id' ∈ (n.conns fd').owed) :
    (n.answered fd' id' q).Awaits fd id := by
  unfold Net.Awaits Net.answered
  by_cases hfd : fd = fd'
  · subst hfd
    simp only [Function.update_self]
    rcases h with hempty | ⟨howed, -⟩
    · rw [hempty, List.mem_singleton] at hid
      subst hid
      refine Or.inr ⟨by simp [hempty], q, [], List.mem_cons_self .., ?_⟩
      rw [hempty, List.nil_append, List.append_nil]
    · rw [howed] at hid
      cases hid
  · simp only [Function.update_of_ne hfd]
    rcases h with hempty | ⟨howed, q', rest, hq, hin⟩
    · exact Or.inl hempty
    · exact Or.inr ⟨howed, q', rest, List.mem_cons_of_mem _ hq, hin⟩

theorem Net.Awaits.arrive {n : Net P} {fd fd' : ℤ} {id : ℕ} {src : Source} {bs : List UInt8}
    (h : n.Awaits fd id) (howed : (n.conns fd').owed = []) :
    (n.arrive fd' src bs).Awaits fd id := by
  unfold Net.Awaits Net.arrive
  by_cases hfd : fd = fd'
  · subst hfd
    simp only [Function.update_self]
    rcases h with hempty | ⟨-, q, rest, hq, hin⟩
    · rw [hempty] at howed
      cases howed
    · exact Or.inr ⟨howed, q, _, hq, by rw [hin, List.append_assoc]⟩
  · simp only [Function.update_of_ne hfd]
    exact h

/-- What the server does is seen by a thread as long as it keeps what the thread
awaits. -/
theorem Net.InPhase.act {n n' : Net P} {t : Tid} {p : Phase} (h : n.InPhase t p)
    (hw : n'.waiting = n.waiting) (hwd : n'.world = n.world)
    (ha : ∀ fd id, n.Awaits fd id → n'.Awaits fd id) : n'.InPhase t p := by
  cases p with
  | idle => exact (congrFun hw t).trans h
  | asked =>
    obtain ⟨fd, id, hs, hfd, haw⟩ := h
    exact ⟨fd, id, (congrFun hw t).trans hs, hwd ▸ hfd, ha fd id haw⟩
  | reading fd' =>
    obtain ⟨fd, id, hs, hfd, haw⟩ := h
    exact ⟨fd, id, (congrFun hw t).trans hs, hfd, ha fd id haw⟩

/-- An operation of a thread. -/
theorem Orderly.exec {t : Tid} {i : Input} (ho : Orderly c) (hcalm : Calm c (.exec t i))
    (hs : NetStep c (.exec t i) c') : Orderly c' := by
  obtain ⟨o, k, x, w, hp, hx, hc'⟩ := Threads.exec_eq hs
  have hnext : (c.prog t).next = some o := by rw [hp]; rfl
  obtain ⟨hother, hclear⟩ := hcalm o hnext
  -- the operation that the thread is at is the one the discipline has let through
  obtain ⟨p, hobeys, hphase⟩ := ho.phases t
  rw [hp] at hobeys
  obtain ⟨f, hf, -⟩ := hobeys
  obtain ⟨i', hw⟩ := handleNet_handle hx
  refine ⟨ho.phases.exec hs ?_ ?_, ?_, ?_⟩
  · intro o' x' w' s' f' ho' hx' hf' hs'
    rw [hnext, Option.some.injEq] at ho'
    subst ho'
    exact handleNet_own hf' hs' hclear hx'
  · intro o' x' w' s' t' ht ho' hx' hs'
    rw [hnext, Option.some.injEq] at ho'
    subst ho'
    cases hwait : c.shared.waiting t' with
    | none =>
      rw [hs'.idle_of_none hwait]
      exact (handleNet_waiting_ne ht hx').trans hwait
    | some y =>
      have hd := hother (by rw [← Tid.eq_other ht, hwait]; rfl)
      exact hs'.untouched (handleNet_untouched hd hx')
  · rw [hc']
    exact (handle_fd_sockets hw).2 ho.noSocket
  · rw [hc']
    exact handleNet_correlated hf hphase ho.noSocket hclear hx ho.correlated

/-- **One calm step keeps the invariant.** -/
theorem Orderly.step {a : NetAct P} (ho : Orderly c) (hcalm : Calm c a) (hs : NetStep c a c') :
    Orderly c' := by
  cases a with
  | begin t a =>
    change (if t.Runs a then c.begin t (a.prog P) else none) = some c' at hs
    split_ifs at hs with ht
    have hphases := ho.phases.begin (tidy_prog ht) hs
    have hshared : c'.shared = c.shared := by
      unfold Threads.begin at hs
      split at hs <;> cases hs
      rfl
    exact ⟨hphases, hshared ▸ ho.noSocket, hshared ▸ ho.correlated⟩
  | exec t i => exact ho.exec hcalm hs
  | reply fd id q =>
    change (if id ∈ (c.shared.conns fd).owed then _ else none) = some c' at hs
    split_ifs at hs with hid
    cases hs
    refine ⟨ho.phases.act fun t p hp => hp.act rfl rfl fun _ _ ha => ha.answered hid,
      ho.noSocket, ?_, ho.correlated.controls⟩
    intro k hk j res hrd hacc
    obtain ⟨j', hj, hmem⟩ := ho.correlated.replies k hk j res hrd hacc
    exact ⟨j', hj, List.mem_cons_of_mem _ hmem⟩
  | devctl fd q =>
    cases hs
    exact ⟨ho.phases.act fun t p hp => hp.act rfl rfl fun _ _ ha => ha.arrive hcalm,
      ho.noSocket, ho.correlated.of_eq rfl rfl⟩

theorem orderly_start : Orderly (netStart f s greeting) where
  phases := fun _ => ⟨.idle, rfl, rfl⟩
  noSocket := nofun
  correlated := ⟨nofun, nofun⟩

/-- **Correlation.**  In a run of calm steps every reply that `cloud_send_packet` accepts
is the server's reply to its own request, and every DEVCTL request is taken by
`network_device_control` and by nothing else. -/
theorem correlated_of_calm {h : List (Move (Sys P) (NetAct P))} (hr : NetRun f s greeting h c)
    (hcalm : ∀ m ∈ h, Calm m.pre m.label) : Correlated c.shared :=
  (hr.invariant_of Orderly hcalm orderly_start fun _ _ _ hi hc hs => hi.step hc hs).correlated

end Runs

/-- A calm run: the device connects, a user is registered over the same connection, and
a DEVCTL request that comes afterwards is taken by the daemon. -/
theorem correlated_of_calm_register : ∃ h c,
    NetRun (sampleConf (CStr.lit "a") (CStr.lit "b")) sampleInfo [0] h c ∧
      c.shared.taken.map Taken.reader = [.control, .request (some 2), .request (some 1),
        .request (some 0), .greeting] ∧ Correlated c.shared := by
  obtain ⟨h, c, hr, hcalm, hrd⟩ := exists_netRun (sampleConf (CStr.lit "a") (CStr.lit "b"))
    sampleInfo [0] (connectCues ++ regUsrCues ++
      [.step (.reply 3 2 (samplePacket (CStr.lit "OK"))),
        .run .caller [.reads [] [.data 8, .data 4]],
        .step (.devctl 3 (samplePacket (CStr.lit "x"))), .step (.begin .daemon .daemon),
        .run .daemon [.select .ready, .bytes (List.replicate 64 0), .select .ready,
          .reads [] [.data 8, .data 4]]])
    (fun r => (∀ m ∈ r.1, Calm m.pre m.label) ∧ r.2.shared.taken.map Taken.reader =
      [.control, .request (some 2), .request (some 1), .request (some 0), .greeting])
    (by decide +kernel)
  exact ⟨h, c, hr, hrd, correlated_of_calm hr hcalm⟩

/-- **A DEVCTL request is taken as a reply.**  The device is connected and bound, and a
user is registered over this connection.  The server sends a DEVCTL request before it
answers: `cloud_send_packet` returns 0 with the payload of that request, and the reply to
`REGUSR` has not been sent yet. -/
theorem devctl_taken_as_reply : ∃ h c,
    NetRun (sampleConf (CStr.lit "a") (CStr.lit "b")) sampleInfo [0] h c ∧
      (∃ k ∈ c.shared.taken, k.reader = .request (some 2) ∧
        k.accepted = some (samplePacket (CStr.lit "x")).payload ∧
        .devctl ∈ k.bytes.map Prod.snd ∧ ∀ a ∈ c.shared.answers, a.1 ≠ 2) ∧
      ¬ Correlated c.shared := by
  obtain ⟨h, c, hr, hk⟩ :=
    exists_netRun (sampleConf (CStr.lit "a") (CStr.lit "b")) sampleInfo [0]
      (connectCues ++ regUsrCues ++ [.step (.devctl 3 (samplePacket (CStr.lit "x"))),
        .run .caller [.reads [] [.data 8, .data 4]]])
      (fun r => ∃ k ∈ r.2.shared.taken, k.reader = .request (some 2) ∧
        k.accepted = some (samplePacket (CStr.lit "x")).payload ∧
        .devctl ∈ k.bytes.map Prod.snd ∧ ∀ a ∈ r.2.shared.answers, a.1 ≠ 2)
      (by decide +kernel)
  refine ⟨h, c, hr, hk, ?_⟩
  intro hc
  obtain ⟨k, hk, hrd, -, hsrc, -⟩ := hk
  have hcontrol := hc.controls k hk hsrc
  rw [hrd] at hcontrol
  cases hcontrol

end SwCloud
