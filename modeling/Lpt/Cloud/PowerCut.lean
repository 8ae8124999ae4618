import Lpt.Cloud.Binding
import Lpt.Cloud.Saving

/-!
# Power cuts

The device can lose its power between any two operations, and starts again with what has been
saved.  A cut between the account and the password of a binding leaves a pair of which one
half is new and the other is old.

* `Device`, `DeviceStep` — runs with power cuts in the middle of any action.
* `saved_pair` — what is saved in such a run: each half of the pair is as it was at the
  beginning, or empty, or was accepted by the server together with a binding; and the two
  halves belong together, unless the last change was a power cut that changed the account alone.
-/

namespace SwCloud

open CLib Effect Trans

variable {P : CldProtocol}

/-! ## Actions that come to their end -/

section Steps

variable {w w' : World P}

/-- A binding saves the pair the server has acknowledged, if it saves one. -/
theorem BindStep.pair_cases {user password devicename : CStr} {r : CommonStatus}
    (hb : BindStep user password devicename w r w') :
    w'.conf.pair = w.conf.pair ∨ Acknowledged P w'.trace w'.conf.pair := by
  cases hb with
  | refused _ _ => exact Or.inl rfl
  | noConnection _ hc _ =>
    rw [World.conf_disconnect, hc.effect.conf_eq, World.conf_disconnect]
    exact Or.inl rfl
  | authFailed _ hc ha _ =>
    rw [World.conf_disconnect, Requests.conf_eq ha, World.conf_credited, hc.effect.conf_eq,
      World.conf_disconnect]
    exact Or.inl rfl
  | bindFailed _ hc ha hb _ =>
    obtain ⟨code, hb⟩ := hb
    rw [World.conf_disconnect, hb.conf_eq, Requests.conf_eq ha, World.conf_credited,
      hc.effect.conf_eq, World.conf_disconnect]
    exact Or.inl rfl
  | @bound r w₁ w₂ w₃ w₄ _ hc ha hb hu =>
    obtain ⟨es, htr, -⟩ := hu.asks
    have hpair : w₄.bound.conf.pair = (w₃.cloud.account, w₃.cloud.password) := by
      rw [World.conf_bound, Conf.pair, hu.cloud_eq]
    rw [hpair, World.trace_bound]
    exact Or.inr ((hc.acknowledged ha hb).mono ⟨es, htr.symm⟩)

/-- **An action that comes to its end** leaves the pair alone, or saves a whole one. -/
theorem Moves.pair_cases {a : Action} (hm : Moves w a w') :
    w'.conf.pair = w.conf.pair ∨ Granted P w'.trace w'.conf.pair := by
  have hko : Keeps w w' ∨ Clears w w' →
      w'.conf.pair = w.conf.pair ∨ Granted P w'.trace w'.conf.pair := by
    rintro (hk | hc)
    · exact Or.inl (congrArg Conf.pair hk.conf_eq)
    · exact Or.inr (Or.inl (congrArg Conf.pair hc.conf_eq))
  cases hm with
  | daemon hd => exact hko hd.keeps_or_clears
  | notice _ _ => exact Or.inl rfl
  | restart _ => exact Or.inl rfl
  | ignored _ _ => exact Or.inl rfl
  | regUsr hr => exact hko (Or.inl hr.keeps)
  | bind hb => exact hb.pair_cases.imp_right Or.inr
  | ubind hu => exact hko hu.keeps_or_clears
  | ping =>
    rw [World.pinged]
    split <;> exact Or.inl rfl

end Steps

/-! ## Runs with power cuts -/

/-- The device, and what was recorded before it was started for the last time. -/
structure Device (P : CldProtocol) where
  world : World P
  past : List Event

/-- Everything recorded so far. -/
def Device.record (d : Device P) : List Event := d.world.trace ++ d.past

/-- What can happen to the device. -/
inductive DeviceAct (P : CldProtocol) where
  /-- An action is carried out. -/
  | act (a : Action)
  /-- An action is begun, the power fails, and the device starts again. -/
  | cut (a : Action) (s : SysInfo P)

/-- One step.  Only the configuration is found again after a power cut. -/
def DeviceStep (d : Device P) : DeviceAct P → Device P → Prop
  | .act a, d' => Step d.world a d'.world ∧ d'.past = d.past
  | .cut a s, d' => ∃ w, Passes (a.prog P) d.world w ∧ d' = ⟨start w.conf s, w.trace ++ d.past⟩

/-- The device when it is started for the first time. -/
def firstStart (f : Conf P) (s : SysInfo P) : Device P := ⟨start f s, []⟩

/-- A run of the device. -/
abbrev DeviceRun (f : Conf P) (s : SysInfo P) (h : List (Move (Device P) (DeviceAct P)))
    (d : Device P) : Prop :=
  Path DeviceStep (firstStart f s) h d

/-- A power cut has changed the account that is saved and left the password as it was, and
nothing has changed the pair since. -/
def lastCut (h : List (Move (Device P) (DeviceAct P))) : Prop :=
  monitor (fun (c : Prop) m =>
    (m.post.world.conf.pair = m.pre.world.conf.pair ∧ c) ∨
      (m.post.world.conf.pair ≠ m.pre.world.conf.pair ∧
        m.post.world.conf.password = m.pre.world.conf.password ∧
          ∃ a s, m.label = .cut a s)) False h

/-- The pair was there at the beginning, or may have been saved since. -/
def Entitled (f : Conf P) (d : Device P) (p : Pair P) : Prop :=
  p = f.pair ∨ Granted P d.record p

section Device

variable {f : Conf P} {s : SysInfo P} {d d' : Device P} {x : DeviceAct P}
  {h : List (Move (Device P) (DeviceAct P))}

/-- The record only grows. -/
theorem DeviceStep.record_suffix (hs : DeviceStep d x d') : d.record <:+ d'.record := by
  have hpast : ∀ {tr tr' : List Event}, tr <:+ tr' → tr ++ d.past <:+ tr' ++ d.past := by
    rintro tr _ ⟨more, rfl⟩
    exact ⟨more, (List.append_assoc ..).symm⟩
  cases x with
  | act a =>
    obtain ⟨hstep, hpast'⟩ := hs
    rw [Device.record, Device.record, hpast']
    exact hpast (runs_suffix hstep)
  | cut a s =>
    obtain ⟨w, hw, rfl⟩ := hs
    exact hpast (Passes.suffix hw)

/-- **What one step can do to the pair**: nothing, or a granted pair is saved; or a power cut
leaves the account of a granted pair with the old password. -/
theorem DeviceStep.pair_cases (hs : DeviceStep d x d') :
    d'.world.conf.pair = d.world.conf.pair ∨ Granted P d'.record d'.world.conf.pair ∨
      ((∃ a s, x = .cut a s) ∧ ∃ p, Granted P d'.record p ∧
        d'.world.conf.pair = (p.1, d.world.conf.password)) := by
  cases x with
  | act a =>
    obtain ⟨hstep, -⟩ := hs
    exact hstep.moves.pair_cases.imp_right fun hg => Or.inl (hg.past _)
  | cut a s =>
    obtain ⟨w, hw, rfl⟩ := hs
    show w.conf.pair = d.world.conf.pair ∨ Granted P (w.trace ++ d.past) w.conf.pair ∨ _
    cases Action.confCase hw with
    | same hf => exact Or.inl (congrArg Conf.pair hf)
    | half p hp hf =>
      exact Or.inr (Or.inr ⟨⟨a, s, rfl⟩, p, hp.past _, congrArg Conf.pair hf⟩)
    | whole p hp hf =>
      have hpair : w.conf.pair = p := congrArg Conf.pair hf
      exact Or.inr (Or.inl (hpair ▸ hp.past _))

theorem Entitled.step {p : Pair P} (hp : Entitled f d p) (hs : DeviceStep d x d') :
    Entitled f d' p :=
  hp.imp_right (·.mono hs.record_suffix)

/-- What holds in every state of a run with power cuts. -/
structure Saved (f : Conf P) (h : List (Move (Device P) (DeviceAct P))) (d : Device P) :
    Prop where
  halves : ∃ p q, Entitled f d p ∧ Entitled f d q ∧ d.world.conf.pair = (p.1, q.2)
  whole : ¬ lastCut h → Entitled f d d.world.conf.pair

theorem Saved.step (hd : Saved f h d) (hs : DeviceStep d x d') :
    Saved f (⟨d, x, d'⟩ :: h) d' := by
  obtain ⟨⟨p, q, hp, hq, hpq⟩, hwhole⟩ := hd
  have hlast : lastCut (⟨d, x, d'⟩ :: h) ↔
      (d'.world.conf.pair = d.world.conf.pair ∧ lastCut h) ∨
        (d'.world.conf.pair ≠ d.world.conf.pair ∧
          d'.world.conf.password = d.world.conf.password ∧ ∃ a s, x = .cut a s) := Iff.rfl
  by_cases hsame : d'.world.conf.pair = d.world.conf.pair
  · refine ⟨⟨p, q, hp.step hs, hq.step hs, hsame.trans hpq⟩, fun hn => ?_⟩
    rw [hsame]
    exact (hwhole fun hc => hn (hlast.2 (Or.inl ⟨hsame, hc⟩))).step hs
  · rcases hs.pair_cases.resolve_left hsame with hg | ⟨hcut, g, hg, hpair⟩
    · exact ⟨⟨_, _, Or.inr hg, Or.inr hg, rfl⟩, fun _ => Or.inr hg⟩
    · have hpass : d.world.conf.password = q.2 := congrArg Prod.snd hpq
      refine ⟨⟨g, q, Or.inr hg, hq.step hs, by rw [hpair, hpass]⟩, fun hn => ?_⟩
      exact absurd (hlast.2 (Or.inr ⟨hsame, congrArg Prod.snd hpair, hcut⟩)) hn

/-- **What is saved is never made up.**  In every state of every run with power cuts in the
middle of any action: the account that is saved, and the password, is each that of a pair that
was there at the beginning, or is empty, or was acknowledged by the server; and both are of
one such pair, unless the last change of what is saved was cut in two. -/
theorem saved_pair (hr : DeviceRun f s h d) :
    (∃ p q, Entitled f d p ∧ Entitled f d q ∧ d.world.conf.pair = (p.1, q.2)) ∧
      (¬ lastCut h → Entitled f d d.world.conf.pair) := by
  have hsaved : Saved f h d := by
    induction hr with
    | start => exact ⟨⟨_, _, Or.inl rfl, Or.inl rfl, rfl⟩, fun _ => Or.inl rfl⟩
    | snoc _ hs ih => exact ih.step hs
  exact ⟨hsaved.halves, hsaved.whole⟩

/-- The power fails during the first binding of a device, after `n` operations. -/
theorem exists_cut (n : ℕ) (p : Pair sampleProtocol)
    (hcut : ((Prog.cutAfter (handle sampleProtocol) (quiet sampleProtocol) n
      ((Action.bind (some (CStr.lit "u")) (some (CStr.lit "p")) (some (CStr.lit "n"))).prog _)
      (bindInputs 3) (start (sampleConf (CStr.lit "") (CStr.lit "")) sampleInfo)).any fun w =>
        decide (w.conf.pair = p)) = true) :
    ∃ (m : Move (Device sampleProtocol) (DeviceAct sampleProtocol)),
      DeviceRun (sampleConf (CStr.lit "") (CStr.lit "")) sampleInfo [m] m.post ∧
        m.pre.world.conf.pair = (.snprintf (CStr.lit ""), .snprintf (CStr.lit "")) ∧
          m.post.world.conf.pair = p := by
  obtain ⟨w, hw, hpair⟩ := (Option.any_eq_true _ _).1 hcut
  have hstep : DeviceStep (firstStart (sampleConf (CStr.lit "") (CStr.lit "")) sampleInfo)
      (.cut (.bind (some (CStr.lit "u")) (some (CStr.lit "p")) (some (CStr.lit "n"))) sampleInfo)
      ⟨start w.conf sampleInfo, w.trace ++ []⟩ := ⟨w, Prog.cutAfter_reaches hw, rfl⟩
  exact ⟨⟨_, _, _⟩, Path.start.snoc hstep, rfl, of_decide_eq_true hpair⟩

/-- Two runs to which the law applies: the power fails while a binding is saved, between the
account and the password, and the device starts again with the account only; and it fails
behind the password, and the device starts again with the whole pair. -/
theorem saved_pair_cut :
    (∃ (h : List (Move (Device sampleProtocol) (DeviceAct sampleProtocol)))
      (d : Device sampleProtocol),
      DeviceRun (sampleConf (CStr.lit "") (CStr.lit "")) sampleInfo h d ∧
        d.world.conf.pair = (.snprintf (CStr.lit "u"), .snprintf (CStr.lit "")) ∧
        ∃ p q, Entitled (sampleConf (CStr.lit "") (CStr.lit "")) d p ∧
          Entitled (sampleConf (CStr.lit "") (CStr.lit "")) d q ∧
            d.world.conf.pair = (p.1, q.2)) ∧
    ∃ (h : List (Move (Device sampleProtocol) (DeviceAct sampleProtocol)))
      (d : Device sampleProtocol),
      DeviceRun (sampleConf (CStr.lit "") (CStr.lit "")) sampleInfo h d ∧
        d.world.conf.pair = (.snprintf (CStr.lit "u"), .snprintf (CStr.lit "p")) ∧
        Entitled (sampleConf (CStr.lit "") (CStr.lit "")) d d.world.conf.pair := by
  constructor
  · obtain ⟨m, hrun, -, hpost⟩ :=
      exists_cut 39 (.snprintf (CStr.lit "u"), .snprintf (CStr.lit "")) (by decide +kernel)
    exact ⟨_, _, hrun, hpost, (saved_pair hrun).1⟩
  · obtain ⟨m, hrun, hpre, hpost⟩ :=
      exists_cut 41 (.snprintf (CStr.lit "u"), .snprintf (CStr.lit "p")) (by decide +kernel)
    refine ⟨_, _, hrun, hpost, (saved_pair hrun).2 ?_⟩
    -- the password has been changed as well
    rintro (⟨-, hnever⟩ | ⟨-, hpass, -⟩)
    · exact hnever
    · have hold := congrArg Prod.snd hpre
      have hnew := congrArg Prod.snd hpost
      exact absurd (hnew.symm.trans (hpass.trans hold)) (by decide)

end Device

end SwCloud
