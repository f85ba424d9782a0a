import Stencil.Filter
import Stencil.Proofs.Text.Utf8

/-!
# Top-level pipes of an expression, byte by byte

`Filter.splitPipes` reads characters and keeps the last solid character in its
state.  This file states the rule for separating pipes in terms of the bytes of
an expression alone, and proves that the two readings agree.

* `ByteScan` has one flag per kind of literal and one signed count per kind of
  bracket.  `ByteScan.next` reads a byte; it sees all bytes before it, so an
  escape is a backslash right before, and a slash looks back over spaces.
* `byteScan` is the state after some bytes, a left fold that knows nothing of
  cut points.
* `TopLevelPipe bytes i`: the byte at offset `i` is a separating pipe.

The simulation is `foldl_readByte_utf8`: after the bytes of a text, the byte
state is the image of the character state under `Scan.bytes`.  A character
outside ASCII changes neither, so only the ASCII case compares the two rules.
-/

namespace Stencil.Filter

open Text
open String (utf8EncodeChar)

/-! ## The rule -/

/-- The lexical state of a pass over bytes. -/
structure ByteScan where
  inSingle : Bool := false
  inDouble : Bool := false
  inTemplate : Bool := false
  inRegex : Bool := false
  paren : Int := 0
  square : Int := 0
  curly : Int := 0
  deriving DecidableEq

/-- The bytes that can end an operand. -/
def operandByte (b : UInt8) : Bool :=
  (48 ≤ b && b ≤ 57) || (65 ≤ b && b ≤ 90) || (97 ≤ b && b ≤ 122) ||
    (['_', ')', '.', '+', '-', '$', ']'].map Char.toUInt8).contains b

/-- Whether a slash behind some bytes, the last one first, opens a regular
expression: the nearest byte that is no space must not end an operand. -/
def slashOpensRegex (before : List UInt8) : Bool :=
  match before.find? (· != ' '.toUInt8) with
  | none => true
  | some b => !operandByte b

namespace ByteScan

/-- Reading a byte behind some bytes, the last one first. -/
def next (before : List UInt8) (s : ByteScan) (b : UInt8) : ByteScan :=
  let closes (delimiter : Char) := b == delimiter.toUInt8 && before.head? != some '\\'.toUInt8
  if s.inSingle then { s with inSingle := !closes '\'' }
  else if s.inDouble then { s with inDouble := !closes '"' }
  else if s.inTemplate then { s with inTemplate := !closes '`' }
  else if s.inRegex then { s with inRegex := !closes '/' }
  else if b == '"'.toUInt8 then { s with inDouble := true }
  else if b == '\''.toUInt8 then { s with inSingle := true }
  else if b == '`'.toUInt8 then { s with inTemplate := true }
  else if b == '('.toUInt8 then { s with paren := s.paren + 1 }
  else if b == ')'.toUInt8 then { s with paren := s.paren - 1 }
  else if b == '['.toUInt8 then { s with square := s.square + 1 }
  else if b == ']'.toUInt8 then { s with square := s.square - 1 }
  else if b == '{'.toUInt8 then { s with curly := s.curly + 1 }
  else if b == '}'.toUInt8 then { s with curly := s.curly - 1 }
  else if b == '/'.toUInt8 then { s with inRegex := slashOpensRegex before }
  else s

/-- No flag is set and all counts are zero. -/
def AtTopLevel (s : ByteScan) : Prop :=
  (s.inSingle = false ∧ s.inDouble = false ∧ s.inTemplate = false ∧ s.inRegex = false) ∧
    s.paren = 0 ∧ s.square = 0 ∧ s.curly = 0

end ByteScan

/-- Reads a byte and remembers it. -/
def readByte (read : List UInt8 × ByteScan) (b : UInt8) : List UInt8 × ByteScan :=
  (b :: read.1, read.2.next read.1 b)

/-- The state after reading some bytes. -/
def byteScan (bytes : List UInt8) : ByteScan :=
  (bytes.foldl readByte ([], {})).2

/-- The byte at offset `i` is a pipe at top level with no pipe beside it. -/
structure TopLevelPipe (bytes : List UInt8) (i : Nat) : Prop where
  pipe : bytes[i]? = some '|'.toUInt8
  none_before : 0 < i → bytes[i - 1]? ≠ some '|'.toUInt8
  none_behind : bytes[i + 1]? ≠ some '|'.toUInt8
  top_level : (byteScan (bytes.take i)).AtTopLevel

/-! ## Characters outside ASCII change nothing -/

theorem beq_toUInt8_of_wide {b : UInt8} (hwide : 128 ≤ b.toNat) {a : Char}
    (hascii : a.toNat < 128) : (b == a.toUInt8) = false := by
  rw [beq_eq_false_iff_ne]
  rintro rfl
  rw [toNat_toUInt8_of_ascii hascii] at hwide
  omega

theorem ByteScan.next_of_wide {b : UInt8} (hwide : 128 ≤ b.toNat) (before : List UInt8)
    (s : ByteScan) : s.next before b = s := by
  have hne : ∀ a : Char, a.toNat < 128 → (b == a.toUInt8) = false :=
    fun a ha => beq_toUInt8_of_wide hwide ha
  simp only [ByteScan.next, hne '\'' (by decide), hne '"' (by decide), hne '`' (by decide),
    hne '(' (by decide), hne ')' (by decide), hne '[' (by decide), hne ']' (by decide),
    hne '{' (by decide), hne '}' (by decide), hne '/' (by decide)]
  cases s
  simp only [Bool.false_and, Bool.not_false]
  split_ifs <;> simp_all

theorem foldl_readByte_of_wide {bytes : List UInt8} (hwide : ∀ b ∈ bytes, 128 ≤ b.toNat)
    (before : List UInt8) (s : ByteScan) :
    bytes.foldl readByte (before, s) = (bytes.reverse ++ before, s) := by
  induction bytes generalizing before with
  | nil => rfl
  | cons b bytes ih =>
      rw [List.foldl_cons, readByte, ByteScan.next_of_wide (hwide b (List.mem_cons_self ..)),
        ih fun c hc => hwide c (List.mem_cons_of_mem _ hc)]
      simp

theorem Scan.enter_of_wide {c : Char} (hwide : 128 ≤ c.toNat) (s : Scan) : s.enter c = s := by
  unfold Scan.enter
  split
  case h_11 => rfl
  all_goals exact absurd hwide (by decide)

/-! ## What the two passes remember -/

theorem Scan.run_append (s : Scan) (cs ds : List Char) :
    s.run (cs ++ ds) = (s.run cs).run ds :=
  List.foldl_append

@[simp] theorem Scan.run_nil (s : Scan) : s.run [] = s := rfl

@[simp] theorem Scan.run_cons (s : Scan) (c : Char) (cs : List Char) :
    s.run (c :: cs) = (s.step c).run cs := rfl

@[simp] theorem Scan.previous_step (s : Scan) (c : Char) : (s.step c).previous = some c := rfl

theorem Scan.previous_run (s : Scan) (cs : List Char) :
    (s.run cs).previous = cs.getLast?.or s.previous := by
  cases cs using List.reverseRecOn with
  | nil => rfl
  | append_singleton cs c => simp [Scan.run_append]

theorem lt_of_operandByte {b : UInt8} (hend : operandByte b = true) : b.toNat < 128 := by
  simp only [operandByte, Bool.or_eq_true, Bool.and_eq_true, decide_eq_true_eq,
    UInt8.le_iff_toNat_le, List.contains_iff_mem] at hend
  rcases hend with ((⟨_, hle⟩ | ⟨_, hle⟩) | ⟨_, hle⟩) | hmem
  · exact Nat.lt_of_le_of_lt hle (by decide)
  · exact Nat.lt_of_le_of_lt hle (by decide)
  · exact Nat.lt_of_le_of_lt hle (by decide)
  · have hall : (['_', ')', '.', '+', '-', '$', ']'].map Char.toUInt8).all (·.toNat < 128) := by
      decide
    exact of_decide_eq_true (List.all_eq_true.mp hall b hmem)

theorem lt_of_endsOperand {c : Char} (hend : endsOperand c = true) : c.toNat < 128 := by
  change ((decide ('A'.val ≤ c.val ∧ c.val ≤ 'Z'.val) || ('a'.val ≤ c.val && c.val ≤ 'z'.val)) ||
    ('0'.val ≤ c.val && c.val ≤ '9'.val) ||
    ['_', ')', '.', '+', '-', '$', ']'].contains c) = true at hend
  simp only [Bool.or_eq_true, Bool.and_eq_true, decide_eq_true_eq, UInt32.le_iff_toNat_le,
    List.contains_iff_mem] at hend
  rcases hend with ((⟨_, hle⟩ | ⟨_, hle⟩) | ⟨_, hle⟩) | hmem
  · exact Nat.lt_of_le_of_lt hle (by decide)
  · exact Nat.lt_of_le_of_lt hle (by decide)
  · exact Nat.lt_of_le_of_lt hle (by decide)
  · have hall : ['_', ')', '.', '+', '-', '$', ']'].all (·.toNat < 128) := by decide
    exact of_decide_eq_true (List.all_eq_true.mp hall c hmem)

/-- A fact that holds of the first 128 characters holds of every ASCII one. -/
theorem ascii_forall {p : Char → Prop} (h : ∀ n < 128, p (Char.ofNat n)) {c : Char}
    (hascii : c.toNat < 128) : p c := by
  rw [← Char.ofNat_toNat c]
  exact h c.toNat hascii

theorem operandByte_of_ascii {c : Char} (hascii : c.toNat < 128) :
    operandByte c.toUInt8 = endsOperand c :=
  ascii_forall (p := fun c => operandByte c.toUInt8 = endsOperand c) (by decide) hascii

theorem slashOpensRegex_cons (b : UInt8) (before : List UInt8) :
    slashOpensRegex (b :: before) =
      if b = ' '.toUInt8 then slashOpensRegex before else !operandByte b := by
  by_cases hspace : b = ' '.toUInt8 <;> simp [slashOpensRegex, hspace]

theorem Scan.opensRegex_step (s : Scan) (c : Char) :
    (s.step c).opensRegex = if c = ' ' then s.opensRegex else !endsOperand c := by
  by_cases hspace : c = ' ' <;> simp [Scan.opensRegex, Scan.step, hspace]

/-- A slash is read alike behind a text and behind the bytes of the text. -/
theorem slashOpensRegex_utf8 (cs : List Char) :
    slashOpensRegex (utf8 cs).reverse = (Scan.start.run cs).opensRegex := by
  induction cs using List.reverseRecOn with
  | nil => rfl
  | append_singleton cs c ih =>
      rw [Scan.run_append, Scan.run_cons, Scan.run_nil, Scan.opensRegex_step, utf8_append,
        utf8_cons, utf8_nil, List.append_nil, List.reverse_append]
      rcases Nat.lt_or_ge c.toNat 128 with hc | hc
      · have hspace : c.toUInt8 = ' '.toUInt8 ↔ c = ' ' := toUInt8_inj_of_ascii hc (by decide)
        rw [utf8EncodeChar_of_ascii hc, List.reverse_singleton, List.singleton_append,
          slashOpensRegex_cons, operandByte_of_ascii hc, ih]
        simp only [hspace]
      · -- the last byte of the character decides, and it ends no operand
        obtain ⟨b, bytes, hbytes⟩ := List.exists_cons_of_ne_nil
          (List.reverse_ne_nil_iff.mpr (String.utf8EncodeChar_ne_nil (c := c)))
        have hwide : 128 ≤ b.toNat := by
          refine le_of_mem_utf8EncodeChar hc (List.mem_reverse.mp ?_)
          rw [hbytes]
          exact List.mem_cons_self ..
        have hspace : b ≠ ' '.toUInt8 := by
          rintro rfl
          revert hwide
          decide
        have hblank : c ≠ ' ' := by
          rintro rfl
          revert hc
          decide
        have hbyte : operandByte b = false := by
          by_contra hend
          have := lt_of_operandByte (Bool.of_not_eq_false hend)
          omega
        have hchar : endsOperand c = false := by
          by_contra hend
          have := lt_of_endsOperand (Bool.of_not_eq_false hend)
          omega
        rw [hbytes, List.cons_append, slashOpensRegex_cons, if_neg hspace, if_neg hblank, hbyte,
          hchar]

/-! ## The simulation -/

/-- The state of a pass as the pass over the bytes has it. -/
def Scan.bytes (s : Scan) : ByteScan where
  inSingle := s.literal == some .singleQuoted
  inDouble := s.literal == some .doubleQuoted
  inTemplate := s.literal == some .template
  inRegex := s.literal == some .regex
  paren := s.paren
  square := s.square
  curly := s.curly

theorem Scan.bytes_step_outside {s : Scan} (hliteral : s.literal = none) (c : Char) :
    (s.step c).bytes = (s.enter c).bytes := by
  simp only [Scan.step, hliteral]
  rfl

theorem Scan.bytes_step_inside {s : Scan} {l : Literal} (hliteral : s.literal = some l) (c : Char) :
    (s.step c).bytes =
      if c = l.delimiter ∧ s.previous ≠ some '\\' then { s with literal := none }.bytes
      else s.bytes := by
  by_cases hclose : c = l.delimiter ∧ s.previous ≠ some '\\'
  · simp only [Scan.step, hliteral, if_pos hclose]
    rfl
  · simp only [Scan.step, hliteral, if_neg hclose]
    simp only [Scan.bytes, hliteral]

theorem Scan.bytes_step_of_wide {c : Char} (hwide : 128 ≤ c.toNat) (s : Scan) :
    (s.step c).bytes = s.bytes := by
  cases hliteral : s.literal with
  | none => rw [Scan.bytes_step_outside hliteral, Scan.enter_of_wide hwide]
  | some l =>
      have hopen : ¬ (c = l.delimiter ∧ s.previous ≠ some '\\') := by
        rintro ⟨rfl, -⟩
        cases l <;> exact absurd hwide (by decide)
      rw [Scan.bytes_step_inside hliteral, if_neg hopen]

theorem Scan.next_bytes_outside {c : Char} (hascii : c.toNat < 128) {s : Scan}
    (hliteral : s.literal = none) {before : List UInt8}
    (hslash : slashOpensRegex before = s.opensRegex) :
    s.bytes.next before c.toUInt8 = (s.enter c).bytes := by
  obtain ⟨literal, paren, square, curly, previous, solid⟩ := s
  obtain rfl : literal = none := hliteral
  unfold Scan.enter
  split
  case h_10 =>
    have hnext : ({ paren, square, curly } : ByteScan).next before '/'.toUInt8 =
        { paren, square, curly, inRegex := slashOpensRegex before } := rfl
    refine hnext.trans ?_
    rw [hslash]
    cases Scan.opensRegex _ <;> rfl
  case h_11 =>
    have hne : ∀ a : Char, a.toNat < 128 → c ≠ a → (c.toUInt8 == a.toUInt8) = false := by
      intro a ha hca
      rw [beq_eq_false_iff_ne, ne_eq, toUInt8_inj_of_ascii hascii ha]
      exact hca
    simp_all [ByteScan.next, Scan.bytes]
  all_goals rfl

theorem Scan.next_bytes_inside {c : Char} (hascii : c.toNat < 128) {s : Scan} {l : Literal}
    (hliteral : s.literal = some l) {before : List UInt8}
    (hescape : before.head? = some '\\'.toUInt8 ↔ s.previous = some '\\') :
    s.bytes.next before c.toUInt8 =
      if c = l.delimiter ∧ s.previous ≠ some '\\' then { s with literal := none }.bytes
      else s.bytes := by
  have hcloses : (c.toUInt8 == l.delimiter.toUInt8 && before.head? != some '\\'.toUInt8) =
      decide (c = l.delimiter ∧ s.previous ≠ some '\\') := by
    have hdelimiter : l.delimiter.toNat < 128 := by cases l <;> decide
    rw [Bool.eq_iff_iff, Bool.and_eq_true, beq_iff_eq, bne_iff_ne, decide_eq_true_iff,
      toUInt8_inj_of_ascii hascii hdelimiter, ne_eq, hescape]
  obtain ⟨literal, paren, square, curly, previous, solid⟩ := s
  obtain rfl : literal = some l := hliteral
  split_ifs with hclose
  · rw [decide_eq_true hclose] at hcloses
    cases l <;> simp only [Literal.delimiter] at hcloses <;>
      simp only [ByteScan.next, Scan.bytes, hcloses] <;> rfl
  · rw [decide_eq_false hclose] at hcloses
    cases l <;> simp only [Literal.delimiter] at hcloses <;>
      simp only [ByteScan.next, Scan.bytes, hcloses] <;> rfl

/-- **The simulation.**  After the bytes of a text, the pass over bytes is in the
image of the state after its characters, and remembers those bytes. -/
theorem foldl_readByte_utf8 (cs : List Char) :
    (utf8 cs).foldl readByte ([], {}) = ((utf8 cs).reverse, (Scan.start.run cs).bytes) := by
  induction cs using List.reverseRecOn with
  | nil => rfl
  | append_singleton cs c ih =>
      rw [utf8_append, utf8_cons, utf8_nil, List.append_nil, List.foldl_append, ih,
        List.reverse_append, Scan.run_append, Scan.run_cons, Scan.run_nil]
      rcases Nat.lt_or_ge c.toNat 128 with hc | hc
      · have hescape : (utf8 cs).reverse.head? = some '\\'.toUInt8 ↔
            (Scan.start.run cs).previous = some '\\' := by
          rw [List.head?_reverse, getLast?_utf8_eq_some_iff (by decide), Scan.previous_run]
          simp [Scan.start]
        have hnext : (Scan.start.run cs).bytes.next (utf8 cs).reverse c.toUInt8 =
            ((Scan.start.run cs).step c).bytes := by
          cases hliteral : (Scan.start.run cs).literal with
          | none =>
              rw [Scan.next_bytes_outside hc hliteral (slashOpensRegex_utf8 cs),
                Scan.bytes_step_outside hliteral]
          | some l =>
              rw [Scan.next_bytes_inside hc hliteral hescape, Scan.bytes_step_inside hliteral]
        rw [utf8EncodeChar_of_ascii hc, List.foldl_cons, List.foldl_nil, readByte, hnext]
        rfl
      · rw [foldl_readByte_of_wide (fun b hb => le_of_mem_utf8EncodeChar hc hb),
          Scan.bytes_step_of_wide hc]

theorem byteScan_utf8 (cs : List Char) : byteScan (utf8 cs) = (Scan.start.run cs).bytes := by
  rw [byteScan, foldl_readByte_utf8]

theorem Scan.atTopLevel_bytes (s : Scan) : s.bytes.AtTopLevel ↔ s.atTopLevel = true := by
  obtain ⟨literal, paren, square, curly, previous, solid⟩ := s
  rcases literal with _ | (_ | _ | _ | _) <;>
    simp [Scan.bytes, ByteScan.AtTopLevel, Scan.atTopLevel, and_assoc]

/-! ## Separating pipes -/

/-- What a separating pipe asks of the bytes on its two sides. -/
theorem topLevelPipe_append_iff (before after : List UInt8) :
    TopLevelPipe (before ++ '|'.toUInt8 :: after) before.length ↔
      before.getLast? ≠ some '|'.toUInt8 ∧ after.head? ≠ some '|'.toUInt8 ∧
        (byteScan before).AtTopLevel := by
  have hbehind : (before ++ '|'.toUInt8 :: after)[before.length + 1]? = after.head? := by
    rw [List.getElem?_append_right (by omega), Nat.add_sub_cancel_left, List.getElem?_cons_succ,
      List.head?_eq_getElem?]
  have hbefore : 0 < before.length →
      (before ++ '|'.toUInt8 :: after)[before.length - 1]? = before.getLast? := by
    intro hpos
    rw [List.getElem?_append_left (by omega), List.getLast?_eq_getElem?]
  constructor
  · intro hpipe
    refine ⟨?_, hbehind ▸ hpipe.none_behind, ?_⟩
    · rcases Nat.eq_zero_or_pos before.length with hzero | hpos
      · rw [List.length_eq_zero_iff.mp hzero]
        simp
      · exact hbefore hpos ▸ hpipe.none_before hpos
    · have := hpipe.top_level
      rwa [List.take_left' rfl] at this
  · rintro ⟨hlast, hhead, htop⟩
    refine ⟨by simp, fun hpos => ?_, ?_, ?_⟩
    · rw [hbefore hpos]
      exact hlast
    · rw [hbehind]
      exact hhead
    · rw [List.take_left' rfl]
      exact htop

theorem Scan.cuts_pipe_iff (s : Scan) (rest : List Char) :
    s.cuts '|' rest = true ↔
      s.previous ≠ some '|' ∧ rest.head? ≠ some '|' ∧ s.atTopLevel = true := by
  simp [Scan.cuts, and_comm, and_left_comm]

/-- The separating pipes among the bytes of a text are those at which a pass
over its characters cuts. -/
theorem topLevelPipe_utf8_iff (cs : List Char) (i : Nat) :
    TopLevelPipe (utf8 cs) i ↔
      ∃ before after, cs = before ++ '|' :: after ∧ (utf8 before).length = i ∧
        (Scan.start.run before).cuts '|' after = true := by
  have hascii : '|'.toNat < 128 := by decide
  have hsides : ∀ before after : List Char,
      TopLevelPipe (utf8 (before ++ '|' :: after)) (utf8 before).length ↔
        (Scan.start.run before).cuts '|' after = true := by
    intro before after
    rw [utf8_append, utf8_cons, utf8EncodeChar_of_ascii hascii, List.singleton_append,
      topLevelPipe_append_iff, ne_eq, ne_eq, getLast?_utf8_eq_some_iff hascii,
      head?_utf8_eq_some_iff hascii, byteScan_utf8, Scan.atTopLevel_bytes, Scan.cuts_pipe_iff,
      Scan.previous_run, Scan.start, Option.or_none]
  constructor
  · intro hpipe
    obtain ⟨before, after, rfl, rfl⟩ := (getElem?_utf8_eq_some_iff hascii cs i).mp hpipe.pipe
    exact ⟨before, after, rfl, rfl, (hsides before after).mp hpipe⟩
  · rintro ⟨before, after, rfl, rfl, hcuts⟩
    exact (hsides before after).mpr hcuts

end Stencil.Filter
