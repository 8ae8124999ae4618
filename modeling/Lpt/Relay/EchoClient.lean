import Lpt.Relay.Socket

/-!
# The echo client

`_str_cli` reads a line, sends it, waits for an answer and prints what is in its buffer then.
The buffer is not initialised, `recv` puts no NUL behind what it stores, and what is cleared
before each `recv` is the text that is in the buffer: the bytes behind the first NUL stay.

* `strCliSend`, `strCliRecv` — the two halves of the loop body.
* `Swept` — what the buffer is like after it has been cleared.
* `Covered` — the pieces after which nothing else is printed with them.
* `Swept.recv` — what is printed for a piece.
-/

namespace EchoClient

open CLib HttpRelay

/-- `MAXLINE`. -/
abbrev maxLine : ℕ := 4096

/-! ## The library -/

/-- `strlen`, of the text at the beginning of the memory. -/
def strlen (m : List UInt8) : ℕ := (CStr.read m).length

/-- `bzero`. -/
def bzero (m : List UInt8) (n : ℕ) : List UInt8 := store m 0 (List.replicate n 0)

/-- `fgets(s, n, fp)`: the bytes that are read, up to the first line feed and less than `n`,
and what is left; `none` at the end of the input. -/
def fgets (n : ℕ) (input : List UInt8) : Option (List UInt8 × List UInt8) :=
  if input = [] then none
  else
    let piece := input.take (n - 1)
    let line := piece.take ((piece.takeWhile (· != 10)).length + 1)
    some (line, input.drop line.length)

/-! ## The loop -/

/-- The variables of `_str_cli`, the input, and what `fputs` has printed.  The messages about
the calls are left out. -/
structure Client where
  stdin : List UInt8
  sendline : List UInt8
  recvline : List UInt8
  printed : List UInt8
  deriving DecidableEq

/-- The loop body up to `send`: the text that is sent. -/
def strCliSend (c : Client) : Option (List UInt8 × Client) :=
  (fgets maxLine c.stdin).map fun (line, rest) =>
    let sendline := store c.sendline 0 (line ++ [0])
    ((CStr.read sendline).bytes, { c with stdin := rest, sendline := sendline })

/-- `_recv_echo`: there is something to receive.  `ret` is the result of `select`, and `eintr`
whether `errno` is `EINTR` after it. -/
def recvEcho (fd ret : ℤ) (eintr : Bool) : Bool :=
  if fd = -1 then false
  else if ret = 0 ∨ (ret = -1 ∧ eintr = true) then false
  else true

/-- The loop body behind `send`; `bs` is what `recv` stores, if it is called and does. -/
def strCliRecv (c : Client) (bs : List UInt8) : Client :=
  let recvline := store (bzero c.recvline (strlen c.recvline)) 0 bs
  { c with
    recvline := recvline
    printed := c.printed ++ (CStr.read recvline).bytes
    sendline := bzero c.sendline (strlen c.sendline) }

/-! ## What is sent -/

section Send

variable {c c' : Client} {t : List UInt8} {n : ℕ} {input line rest : List UInt8}

/-- A line is read whole, or as much of it as there is room for. -/
theorem fgets_append (h : fgets n input = some (line, rest)) : line ++ rest = input := by
  unfold fgets at h
  split_ifs at h
  cases h
  generalize (input.take (n - 1)).takeWhile (· != 10) = l
  rw [List.take_take, List.length_take]
  have hle : min (l.length + 1) (n - 1) ⊓ input.length ≤ input.length := min_le_right _ _
  conv_rhs => rw [← List.take_append_drop (min (l.length + 1) (n - 1) ⊓ input.length) input]
  congr 1
  rw [← List.take_eq_take_min]

/-- **What is sent** is a text, and it is the line if there is no NUL in it. -/
theorem strCliSend_eq (h : strCliSend c = some (t, c')) :
    0 ∉ t ∧ (0 ∉ c.stdin → t ++ c'.stdin = c.stdin) ∧ c'.recvline = c.recvline ∧
      c'.printed = c.printed := by
  unfold strCliSend at h
  obtain ⟨⟨line, rest⟩, hline, heq⟩ := Option.map_eq_some_iff.1 h
  cases heq
  refine ⟨(CStr.read _).nulFree, fun hfree => ?_, rfl, rfl⟩
  have happ := fgets_append hline
  have hnul : 0 ∉ line := fun h0 => hfree (happ ▸ List.mem_append_left _ h0)
  dsimp only
  rw [store_zero, List.append_assoc, List.singleton_append, read_append_zero,
    read_of_nulFree hnul, happ]

end Send

/-! ## What is printed -/

/-- The memory `m` after it has been cleared: zeros in the first `k` places, behind them what
was there at the beginning, and no text where that begins. -/
structure Swept (m₀ m : List UInt8) (k : ℕ) : Prop where
  cleared : bzero m (strlen m) = List.replicate k 0 ++ m₀.drop k
  ends : strlen (m₀.drop k) = 0

/-- How far the buffer has been written, after these pieces, newest first. -/
def high (m₀ : List UInt8) : List (List UInt8) → ℕ
  | [] => strlen m₀
  | bs :: older => max (high m₀ older) bs.length

/-- **Nothing else is printed**: each of the pieces, newest first, ends where the buffer has
been written before, or where the memory happened to hold a NUL. -/
def Covered (m₀ : List UInt8) : List (List UInt8) → Prop
  | [] => True
  | bs :: older => Covered m₀ older ∧ (bs.length ≤ high m₀ older ∨ strlen (m₀.drop bs.length) = 0)

section Recv

variable {m₀ m bs : List UInt8} {k : ℕ}

instance Covered.decidable (m₀ : List UInt8) : (ps : List (List UInt8)) → Decidable (Covered m₀ ps)
  | [] => .isTrue trivial
  | _ :: older =>
      have := Covered.decidable m₀ older
      inferInstanceAs (Decidable (_ ∧ (_ ∨ _)))

theorem strlen_eq_zero_iff : strlen m = 0 ↔ (CStr.read m).bytes = [] := List.length_eq_zero_iff

theorem bzero_eq (m : List UInt8) (n : ℕ) : bzero m n = List.replicate n 0 ++ m.drop n := by
  rw [bzero, store_zero, List.length_replicate]

/-- Behind a text there is none. -/
theorem strlen_drop_strlen (m : List UInt8) : strlen (m.drop (strlen m)) = 0 := by
  rw [strlen_eq_zero_iff, read_bytes, strlen, CStr.length, read_bytes]
  induction m with
  | nil => rfl
  | cons b m ih =>
    by_cases hb : b = 0
    · rw [hb]
      rfl
    · rwa [List.takeWhile_cons_of_pos (by simpa using hb), List.length_cons, List.drop_succ_cons]

/-- The buffer as the function finds it. -/
theorem Swept.start (m₀ : List UInt8) : Swept m₀ m₀ (strlen m₀) :=
  ⟨bzero_eq .., strlen_drop_strlen m₀⟩

/-- What has been cleared, and has had a text without NULs stored in it. -/
theorem Swept.store_eq (h : Swept m₀ m k) (bs : List UInt8) :
    store (bzero m (strlen m)) 0 bs =
      bs ++ (List.replicate (k - bs.length) 0 ++ m₀.drop (max k bs.length)) := by
  rw [h.cleared, store_zero, List.drop_append, List.drop_replicate, List.length_replicate,
    List.drop_drop]
  congr 3
  omega

/-- **What is printed for a piece**: the piece, and behind it what text there is; and the
buffer has been written that far. -/
theorem Swept.recv (h : Swept m₀ m k) (hfree : 0 ∉ bs) :
    ∃ more, (CStr.read (store (bzero m (strlen m)) 0 bs)).bytes = bs ++ more ∧
      (more = [] ↔ bs.length ≤ k ∨ strlen (m₀.drop bs.length) = 0) ∧
      Swept m₀ (store (bzero m (strlen m)) 0 bs) (max k (bs.length + more.length)) := by
  rw [h.store_eq bs]
  refine ⟨_, read_append hfree _, ?_⟩
  by_cases hle : bs.length ≤ k
  · -- the piece ends where there are zeros
    have hmore : (CStr.read (List.replicate (k - bs.length) 0 ++
        m₀.drop (max k bs.length))).bytes = [] := by
      rw [max_eq_left hle]
      cases hk : k - bs.length with
      | zero => exact strlen_eq_zero_iff.1 h.ends
      | succ n => rfl
    rw [hmore, List.length_nil, Nat.add_zero, max_eq_left hle]
    refine ⟨iff_of_true rfl (Or.inl hle), ?_, h.ends⟩
    rw [max_eq_left hle] at hmore
    rw [strlen, CStr.length, read_append hfree, hmore, List.append_nil, bzero_eq, List.drop_left,
      ← List.append_assoc, ← List.replicate_add]
    congr 2
    omega
  · -- the piece goes further than anything before
    have hlt := not_le.1 hle
    rw [Nat.sub_eq_zero_of_le hlt.le, List.replicate_zero, List.nil_append, max_eq_right hlt.le]
    have hmax : max k (bs.length + (CStr.read (m₀.drop bs.length)).bytes.length) =
        bs.length + strlen (m₀.drop bs.length) := max_eq_right (by
      have : (CStr.read (m₀.drop bs.length)).bytes.length = strlen (m₀.drop bs.length) := rfl
      omega)
    refine ⟨⟨fun hm => Or.inr (strlen_eq_zero_iff.2 hm), fun hor => ?_⟩, ?_⟩
    · exact strlen_eq_zero_iff.1 (hor.resolve_left hle)
    · rw [hmax]
      have hlen : strlen (bs ++ m₀.drop bs.length) = bs.length + strlen (m₀.drop bs.length) := by
        rw [strlen, CStr.length, read_append hfree, List.length_append]
        rfl
      refine ⟨?_, ?_⟩
      · rw [hlen, bzero_eq, List.drop_append, List.drop_eq_nil_of_le (Nat.le_add_right _ _),
          List.nil_append, Nat.add_sub_cancel_left, List.drop_drop]
      · rw [← List.drop_drop]
        exact strlen_drop_strlen _

end Recv

end EchoClient
