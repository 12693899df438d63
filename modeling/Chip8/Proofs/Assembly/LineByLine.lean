import Chip8.Assembly.Build
import Chip8.Proofs.Assembly.Blame
import Mathlib.Data.List.Forall2

/-!
# A program is built line by line

Building runs along the lines with a counter and keeps nothing of what it has built once a line fails.
What it comes to is said here without the loop: an image is the words of the lines one behind the other,
and a failure is the first line that does not encode, with that line's error and its number from 1.

The counter only ever shows in the number of the failing line, so a program whose lines are numbered
from a later one fails just as much later (`buildFrom_add`). That, and how the loop goes on behind a first
part (`buildFrom_append`), is all that joining two programs takes.
-/

namespace Chip8

/-- The lines encode to these words, one each. -/
def EncodeTo (lines : List Bytes) (ops : List Opcode) : Prop :=
  List.Forall₂ (fun line op => encode line = .ok op) lines ops

def Encodes (line : Bytes) : Prop := ∃ op, encode line = .ok op

theorem not_encodes_iff {line : Bytes} : ¬Encodes line ↔ ∃ e, encode line = .error e := by
  unfold Encodes
  cases encode line with
  | error e => simp
  | ok op => simp

theorem exists_encodeTo_iff {lines : List Bytes} : (∃ ops, EncodeTo lines ops) ↔ ∀ line ∈ lines, Encodes line := by
  induction lines with
  | nil => simp [EncodeTo]
  | cons line rest ih =>
    rw [List.forall_mem_cons, ← ih]
    constructor
    · rintro ⟨_, hops⟩
      obtain ⟨op, ops, hline, hrest, rfl⟩ := List.forall₂_cons_left_iff.1 hops
      exact ⟨⟨op, hline⟩, ops, hrest⟩
    · rintro ⟨⟨op, hline⟩, ops, hrest⟩
      exact ⟨op :: ops, .cons hline hrest⟩

namespace BuildError

/-- The error of a program whose lines stand behind `count` others. -/
def behind (count : Nat) : BuildError → BuildError
  | emptyProgram => emptyProgram
  | atLine line e => atLine (line + count) e

end BuildError

/-! ### The loop -/

theorem buildFrom_cons_ok {n : Nat} {line : Bytes} {op : Opcode} (rest : List Bytes) (hline : encode line = .ok op) :
    buildFrom n (line :: rest) = (buildFrom (n + 1) rest).map (op.bytes ++ ·) := by
  rw [buildFrom, hline]
  cases buildFrom (n + 1) rest <;> rfl

theorem buildFrom_cons_error {n : Nat} {line : Bytes} {e : AsmError} (rest : List Bytes)
    (hline : encode line = .error e) : buildFrom n (line :: rest) = .error (.atLine n e) := by
  rw [buildFrom, hline]

theorem buildFrom_eq_ok_iff {n : Nat} {lines : List Bytes} {image : Bytes} :
    buildFrom n lines = .ok image ↔ ∃ ops, EncodeTo lines ops ∧ image = ops.flatMap Opcode.bytes := by
  induction lines generalizing n image with
  | nil => simp [buildFrom, EncodeTo, eq_comm]
  | cons line rest ih =>
    cases hline : encode line with
    | error e =>
      rw [buildFrom_cons_error rest hline]
      simp [EncodeTo, List.forall₂_cons_left_iff, hline]
    | ok op =>
      rw [buildFrom_cons_ok rest hline]
      constructor
      · intro h
        cases hrest : buildFrom (n + 1) rest with
        | error e =>
          rw [hrest] at h
          cases h
        | ok tail =>
          obtain ⟨ops, hops, rfl⟩ := ih.1 hrest
          rw [hrest] at h
          exact ⟨op :: ops, .cons hline hops, (Except.ok.inj h).symm⟩
      · rintro ⟨_, hops, rfl⟩
        obtain ⟨op', ops, hop, hrest, rfl⟩ := List.forall₂_cons_left_iff.1 hops
        obtain rfl : op = op' := Except.ok.inj (hline.symm.trans hop)
        rw [ih.2 ⟨ops, hrest, rfl⟩]
        rfl

theorem buildFrom_append (n : Nat) (a b : List Bytes) : buildFrom n (a ++ b) =
    match buildFrom n a, buildFrom (n + a.length) b with
    | .error e, _ => .error e
    | .ok _, .error e => .error e
    | .ok x, .ok y => .ok (x ++ y) := by
  induction a generalizing n with
  | nil =>
    rw [List.nil_append, List.length_nil, Nat.add_zero, buildFrom]
    cases buildFrom n b <;> rfl
  | cons line rest ih =>
    cases hline : encode line with
    | error e => rw [List.cons_append, buildFrom_cons_error _ hline, buildFrom_cons_error _ hline]
    | ok op =>
      have hlength : n + (line :: rest).length = n + 1 + rest.length := by
        rw [List.length_cons]
        omega
      rw [List.cons_append, buildFrom_cons_ok _ hline, buildFrom_cons_ok _ hline, ih, hlength]
      cases buildFrom (n + 1) rest with
      | error e => rfl
      | ok x => cases buildFrom (n + 1 + rest.length) b <;> simp [Except.map]

theorem buildFrom_first_failure (n : Nat) {before : List Bytes} {line : Bytes} {e : AsmError} (after : List Bytes)
    (hbefore : ∀ l ∈ before, Encodes l) (hline : encode line = .error e) :
    buildFrom n (before ++ line :: after) = .error (.atLine (n + before.length) e) := by
  obtain ⟨ops, hops⟩ := exists_encodeTo_iff.2 hbefore
  rw [buildFrom_append, buildFrom_eq_ok_iff.2 ⟨ops, hops, rfl⟩, buildFrom_cons_error after hline]

theorem all_encode_or_first_failure (lines : List Bytes) : (∀ l ∈ lines, Encodes l) ∨
    ∃ before line after e, lines = before ++ line :: after ∧ (∀ l ∈ before, Encodes l) ∧ encode line = .error e := by
  induction lines with
  | nil => exact .inl (by simp)
  | cons first rest ih =>
    by_cases hfirst : Encodes first
    · obtain hall | ⟨before, line, after, e, rfl, hbefore, hline⟩ := ih
      · exact .inl (List.forall_mem_cons.2 ⟨hfirst, hall⟩)
      · exact .inr ⟨first :: before, line, after, e, rfl, List.forall_mem_cons.2 ⟨hfirst, hbefore⟩, hline⟩
    · obtain ⟨e, he⟩ := not_encodes_iff.1 hfirst
      exact .inr ⟨[], first, rest, e, rfl, by simp, he⟩

/-- The loop stops at the first line that has no word, and at no other. -/
theorem buildFrom_eq_error_iff {n : Nat} {lines : List Bytes} {err : BuildError} :
    buildFrom n lines = .error err ↔ ∃ before line after e, lines = before ++ line :: after ∧
      (∀ l ∈ before, Encodes l) ∧ encode line = .error e ∧ err = .atLine (n + before.length) e := by
  constructor
  · intro h
    obtain hall | ⟨before, line, after, e, rfl, hbefore, hline⟩ := all_encode_or_first_failure lines
    · obtain ⟨ops, hops⟩ := exists_encodeTo_iff.2 hall
      rw [buildFrom_eq_ok_iff.2 ⟨ops, hops, rfl⟩] at h
      cases h
    · rw [buildFrom_first_failure n after hbefore hline] at h
      exact ⟨before, line, after, e, rfl, hbefore, hline, (Except.error.inj h).symm⟩
  · rintro ⟨before, line, after, e, rfl, hbefore, hline, rfl⟩
    exact buildFrom_first_failure n after hbefore hline

theorem buildFrom_add (n count : Nat) (lines : List Bytes) :
    buildFrom (n + count) lines = (buildFrom n lines).mapError (BuildError.behind count) := by
  induction lines generalizing n with
  | nil => rfl
  | cons line rest ih =>
    cases hline : encode line with
    | error e =>
      rw [buildFrom_cons_error rest hline, buildFrom_cons_error rest hline]
      rfl
    | ok op =>
      rw [buildFrom_cons_ok rest hline, buildFrom_cons_ok rest hline, Nat.add_right_comm, ih]
      cases buildFrom (n + 1) rest <;> rfl

/-! ### The program -/

theorem build_of_ne_nil {lines : List Bytes} (h : lines ≠ []) : build lines = buildFrom 1 lines := by
  rw [build, if_neg]
  simpa using h

theorem build_eq_ok_iff {lines : List Bytes} {image : Bytes} :
    build lines = .ok image ↔ lines ≠ [] ∧ ∃ ops, EncodeTo lines ops ∧ image = ops.flatMap Opcode.bytes := by
  by_cases hnil : lines = []
  · subst hnil
    simp [build]
  · rw [build_of_ne_nil hnil, buildFrom_eq_ok_iff]
    simp [hnil]

theorem exists_emptyProgram_iff {lines : List Bytes} :
    (∃ e, build lines = .error e ∧ e.chain.kind = .emptyProgram) ↔ lines = [] := by
  constructor
  · rintro ⟨err, herr, hkind⟩
    by_contra hnil
    rw [build_of_ne_nil hnil] at herr
    obtain ⟨before, line, after, e, -, -, hline, rfl⟩ := buildFrom_eq_error_iff.1 herr
    have hmem : e.kind ∈ Kind.ofStatement := kind_mem_of_encode_eq_error hline
    have heq : e.kind = Kind.emptyProgram := hkind
    rw [heq] at hmem
    exact absurd hmem (by decide)
  · rintro rfl
    exact ⟨.emptyProgram, rfl, rfl⟩

theorem build_eq_atLine_iff {lines : List Bytes} {n : Nat} {e : AsmError} :
    build lines = .error (.atLine n e) ↔ ∃ i line, n = i + 1 ∧ lines[i]? = some line ∧ encode line = .error e ∧
      ∀ l ∈ lines.take i, Encodes l := by
  by_cases hnil : lines = []
  · subst hnil
    simp [build]
  · rw [build_of_ne_nil hnil, buildFrom_eq_error_iff]
    constructor
    · rintro ⟨before, line, after, e', rfl, hbefore, hline, hatLine⟩
      obtain ⟨rfl, rfl⟩ := BuildError.atLine.inj hatLine
      refine ⟨before.length, line, Nat.add_comm 1 _, by simp, hline, ?_⟩
      rwa [List.take_left]
    · rintro ⟨i, line, rfl, hi, hline, hbefore⟩
      obtain ⟨hlt, rfl⟩ := List.getElem?_eq_some_iff.1 hi
      refine ⟨lines.take i, lines[i], lines.drop (i + 1), e, ?_, hbefore, hline, ?_⟩
      · rw [← List.drop_eq_getElem_cons hlt, List.take_append_drop]
      · rw [List.length_take, Nat.min_eq_left (Nat.le_of_lt hlt), Nat.add_comm]

theorem build_append {a b : List Bytes} (ha : a ≠ []) (hb : b ≠ []) : build (a ++ b) =
    match build a, build b with
    | .error e, _ => .error e
    | .ok _, .error e => .error (e.behind a.length)
    | .ok x, .ok y => .ok (x ++ y) := by
  have hab : a ++ b ≠ [] := by simp [ha]
  rw [build_of_ne_nil ha, build_of_ne_nil hb, build_of_ne_nil hab, buildFrom_append, buildFrom_add]
  cases buildFrom 1 a with
  | error e => rfl
  | ok x => cases buildFrom 1 b <;> rfl

/-- The two bytes of a word stand where its line stands, two places to a line. -/
theorem getElem?_flatMap_bytes {lines : List Bytes} {ops : List Opcode} (hops : EncodeTo lines ops) {i : Nat}
    {line : Bytes} (hi : lines[i]? = some line) : ∃ op, encode line = .ok op ∧
      (ops.flatMap Opcode.bytes)[2 * i]? = some op.high ∧ (ops.flatMap Opcode.bytes)[2 * i + 1]? = some op.low := by
  induction hops generalizing i with
  | nil => simp at hi
  | @cons first op rest ops hfirst _ ih =>
    cases i with
    | zero =>
      obtain rfl : first = line := by simpa using hi
      exact ⟨op, hfirst, rfl, rfl⟩
    | succ i =>
      obtain ⟨op', hop, hhigh, hlow⟩ := ih (by simpa using hi)
      exact ⟨op', hop, hhigh, hlow⟩

theorem length_flatMap_bytes (ops : List Opcode) : (ops.flatMap Opcode.bytes).length = 2 * ops.length := by
  induction ops with
  | nil => rfl
  | cons op ops ih =>
    rw [List.flatMap_cons, List.length_append, ih, List.length_cons, Opcode.bytes]
    simp only [List.length_cons, List.length_nil]
    omega

/-- Building is encoding line by line. It fails for want of lines just on no lines at all; it succeeds just
if every line encodes, and the image then has the two bytes of each line's word where the line stands; and
it fails at a line just if that is the first one that does not encode, with the error of that line. So two
programs, one behind the other, give the first failure of the two or both images. -/
theorem build_line_by_line :
    (∀ lines, (∃ e, build lines = .error e ∧ e.chain.kind = .emptyProgram) ↔ lines = []) ∧
      (∀ lines, lines ≠ [] → ((∃ image, build lines = .ok image) ↔ ∀ line ∈ lines, Encodes line)) ∧
      (∀ lines image, build lines = .ok image → image.length = 2 * lines.length ∧
        ∀ i line, lines[i]? = some line → ∃ op, encode line = .ok op ∧ image[2 * i]? = some op.high ∧
          image[2 * i + 1]? = some op.low) ∧
      (∀ lines n e, build lines = .error (.atLine n e) ↔ ∃ i line, n = i + 1 ∧ lines[i]? = some line ∧
        encode line = .error e ∧ ∀ l ∈ lines.take i, Encodes l) ∧
      ∀ a b, a ≠ [] → b ≠ [] → build (a ++ b) =
        match build a, build b with
        | .error e, _ => .error e
        | .ok _, .error e => .error (e.behind a.length)
        | .ok x, .ok y => .ok (x ++ y) := by
  refine ⟨fun _ => exists_emptyProgram_iff, fun lines hlines => ?_, fun lines image himage => ?_,
    fun _ _ _ => build_eq_atLine_iff, fun _ _ => build_append⟩
  · rw [← exists_encodeTo_iff]
    constructor
    · rintro ⟨image, himage⟩
      obtain ⟨-, ops, hops, -⟩ := build_eq_ok_iff.1 himage
      exact ⟨ops, hops⟩
    · rintro ⟨ops, hops⟩
      exact ⟨_, build_eq_ok_iff.2 ⟨hlines, ops, hops, rfl⟩⟩
  · obtain ⟨-, ops, hops, rfl⟩ := build_eq_ok_iff.1 himage
    refine ⟨?_, fun i line hi => getElem?_flatMap_bytes hops hi⟩
    rw [length_flatMap_bytes, List.Forall₂.length_eq hops]

/-- Behind a program of one line, a failure at line 2 is one at line 3. -/
theorem build_line_by_line_third_line :
    let e := Operand.isNot .notMemoryLocation (text "jp") " is not a memory location" (text "2")
    build [text "cls"] = .ok [0x00, 0xE0] ∧ build [text "ret", text "jp 2"] = .error (.atLine 2 e) ∧
      build ([text "cls"] ++ [text "ret", text "jp 2"]) = .error (.atLine 3 e) := by
  intro e
  have hfirst : build [text "cls"] = .ok [0x00, 0xE0] := by rfl
  have hsecond : build [text "ret", text "jp 2"] = .error (.atLine 2 e) := by rfl
  have hjoined := build_line_by_line.2.2.2.2 [text "cls"] [text "ret", text "jp 2"] (by simp) (by simp)
  rw [hfirst, hsecond] at hjoined
  exact ⟨hfirst, hsecond, hjoined⟩

end Chip8
