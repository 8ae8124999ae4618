import Lpt.Cloud.Sent

/-!
# The packets of one command

`written` reads off the record which packets of a command were handed to the kernel, over
which descriptor and with which text.  `Emits` says it of the way from one world to
another, part by part of a step: a connect writes nothing, and a request writes at most
its own packet.
-/

namespace SwCloud

open CLib Effect

variable {P : CldProtocol}

/-- The descriptor and the text of a packet of the command `cmd`, if this is the event of its
being written. -/
def Event.written (cmd : ℕ) : Event → Option (ℤ × CStr)
  | .wrote fd hdr payload _ => if hdr.cmd = cmd then some (fd, CStr.read payload) else none
  | _ => none

/-- The packets of the command `cmd` that were written, newest first. -/
def written (cmd : ℕ) (es : List Event) : List (ℤ × CStr) := es.filterMap (Event.written cmd)

/-- On the way from `w` to `w'` exactly the packets `ps` of the command `cmd` were written,
newest first. -/
def Emits (cmd : ℕ) (w w' : World P) (ps : List (ℤ × CStr)) : Prop :=
  ∃ es, w'.trace = es ++ w.trace ∧ written cmd es = ps

section Emits

variable {w w' w₁ : World P} {c cmd : ℕ} {t : CStr} {r : CommonStatus} {ps ps' : List (ℤ × CStr)}

theorem Emits.since (h : Emits c w w' ps) : written c (w.since w') = ps := by
  obtain ⟨es, htr, hes⟩ := h
  rw [World.since_eq htr, hes]

theorem Emits.of_eq (h : w'.trace = w.trace) : Emits c w w' [] := ⟨[], h, rfl⟩

theorem Emits.trans (h : Emits c w w₁ ps) (h' : Emits c w₁ w' ps') :
    Emits c w w' (ps' ++ ps) := by
  obtain ⟨es, htr, hes⟩ := h
  obtain ⟨es', htr', hes'⟩ := h'
  refine ⟨es' ++ es, by rw [htr', htr, List.append_assoc], ?_⟩
  unfold written at *
  rw [List.filterMap_append, hes, hes']

theorem Connects.emits (h : Connects w r w') : Emits c w w' [] := by
  cases h with
  | noSocket => exact ⟨[_], rfl, rfl⟩
  | refused _ _ _ => exact ⟨[_, _], rfl, rfl⟩
  | noGreeting _ _ _ => exact ⟨[_, _, _], rfl, rfl⟩
  | connected _ _ _ => exact ⟨[_, _, _], rfl, rfl⟩

theorem World.disconnect_emits (w : World P) : Emits c w w.disconnect [] := by
  unfold World.disconnect
  split
  · exact .of_eq rfl
  · exact ⟨[_], rfl, rfl⟩

theorem World.setStatus_disconnect_emits (w : World P) (s : Status) :
    Emits c w (w.setStatus s).disconnect [] :=
  World.disconnect_emits (w.setStatus s)

/-- A packet that carries `t` counts for its own command only. -/
theorem Carries.written_singleton {fd : ℤ} {hdr : CldHdr} {payload : List UInt8}
    (hc : Carries P cmd t hdr payload) (ret : ℤ) :
    written c [.wrote fd hdr payload ret] = if cmd = c then [(fd, t)] else [] := by
  have he : Event.written c (.wrote fd hdr payload ret) =
      if cmd = c then some (fd, t) else none := by
    show (if hdr.cmd = c then some (fd, CStr.read payload) else none) = _
    rw [hc.cmd_eq, hc.text_eq]
  unfold written
  rw [List.filterMap_cons, he, List.filterMap_nil]
  split_ifs <;> rfl

/-- A request writes nothing of another command. -/
theorem Requests.emits_other (h : Requests cmd t w r w') (hne : cmd ≠ c) : Emits c w w' [] := by
  obtain ⟨rep, hx, -⟩ := h
  cases hx with
  | tooLarge _ => exact ⟨[_], rfl, rfl⟩
  | writeFailed hc _ =>
    exact ⟨[_], rfl, (hc.written_singleton _).trans (if_neg hne)⟩
  | noReply hc _ =>
    exact ⟨[_, _], rfl, (hc.written_singleton _).trans (if_neg hne)⟩
  | answered hc _ _ =>
    exact ⟨[_, _], rfl, (hc.written_singleton _).trans (if_neg hne)⟩

/-- A request writes its packet, or it fails and may have written nothing. -/
theorem Requests.emits (h : Requests cmd t w r w') :
    Emits cmd w w' [(w.cloud.fd, t)] ∨ (r = .cloudNetwork ∧ Emits cmd w w' []) := by
  obtain ⟨rep, hx, hr⟩ := h
  cases hx with
  | tooLarge _ => exact Or.inr ⟨hr, [_], rfl, rfl⟩
  | writeFailed hc _ =>
    exact Or.inl ⟨[_], rfl, (hc.written_singleton _).trans (if_pos rfl)⟩
  | noReply hc _ =>
    exact Or.inl ⟨[_, _], rfl, (hc.written_singleton _).trans (if_pos rfl)⟩
  | answered hc _ _ =>
    exact Or.inl ⟨[_, _], rfl, (hc.written_singleton _).trans (if_pos rfl)⟩

/-- A request that has succeeded has written its packet. -/
theorem Requests.emits_succeed (h : Requests cmd t w .succeed w') :
    Emits cmd w w' [(w.cloud.fd, t)] := by
  rcases h.emits with hs | ⟨hn, -⟩
  · exact hs
  · cases hn

theorem Updates.emits_other (h : Updates w r w') (hne : P.cldcmdUpdev ≠ c) :
    Emits c w w' [] := by
  obtain ⟨w₁, hq, htr⟩ := h.events_trace
  obtain ⟨es, htr', hes⟩ := hq.emits_other hne
  exact ⟨es, htr.trans htr', hes⟩

end Emits

end SwCloud
