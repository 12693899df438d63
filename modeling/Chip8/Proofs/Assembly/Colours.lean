import Chip8.Proofs.Assembly.Reports

/-!
# Colours of a report

A style is switched by a sequence of bytes that begins with an escape byte, and a terminal shows nothing for it. What
is left of a text when every such sequence is taken out is `unstyled`, which looks at the bytes only and knows nothing
of how they were put together. A piece that holds no escape byte is left as it is, whatever stands around it, even if
it reads like the end of a sequence.

A report with colours is the one without, with styles around some of its pieces (`Decorates`). Two facts are read off
that: the colours come out again without a trace (`Decorates.unstyled_append`), and no style is left open at the end
of the line (`Decorates.closes`).
-/

namespace Chip8

namespace ErrorChain

theorem message_infix_of_mem_links {link e : ErrorChain} (h : link ∈ e.links) : link.message <:+: e.message := by
  induction e with
  | plain m | bare k | classified a =>
    obtain rfl := List.mem_singleton.1 h
    exact List.infix_rfl
  | atLine n cause ih =>
    rcases List.mem_cons.1 h with rfl | h
    · exact List.infix_rfl
    · exact (ih h).trans (List.suffix_append _ _).isInfix
  | within before cause after ih =>
    rcases List.mem_cons.1 h with rfl | h
    · exact List.infix_rfl
    · exact (ih h).trans (List.infix_append before cause.message after)
  | reported cause ih =>
    rcases List.mem_cons.1 h with rfl | h
    · exact List.infix_rfl
    · exact ih h

/-- The error at the outermost line number is told within the text of the whole. -/
theorem message_infix_of_line? {e cause : ErrorChain} {n : Int} (h : e.line? = some (n, cause)) :
    cause.message <:+: e.message := by
  obtain ⟨link, hlink, hline⟩ := List.exists_of_findSome?_eq_some h
  cases link with
  | atLine n' cause' =>
    obtain ⟨rfl, rfl⟩ := Prod.mk.inj (Option.some.inj hline)
    exact (List.suffix_append _ _).isInfix.trans (message_infix_of_mem_links hlink)
  | plain | bare | classified | within | reported => cases hline

end ErrorChain

namespace Diagnostic

/-! ### Taking styles out of a text -/

def isParameter (b : UInt8) : Bool := (0x30 ≤ b && b ≤ 0x39) || b = 0x3B

/-- The bytes are an escape byte, a bracket, digits and semicolons, and an `m`. -/
def IsStyle (s : Bytes) : Prop :=
  ∃ parameters : Bytes, (∀ b ∈ parameters, isParameter b = true) ∧ s = 0x1B :: 0x5B :: (parameters ++ [0x6D])

/-- The parameters of a style are what stands between its first two bytes and its last. -/
theorem isStyle_iff {s : Bytes} : IsStyle s ↔
    s = 0x1B :: 0x5B :: ((s.drop 2).dropLast ++ [0x6D]) ∧ (s.drop 2).dropLast.all isParameter = true := by
  constructor
  · rintro ⟨parameters, hparameters, rfl⟩
    simpa using hparameters
  · rintro ⟨hs, hparameters⟩
    exact ⟨_, List.all_eq_true.1 hparameters, hs⟩

instance (s : Bytes) : Decidable (IsStyle s) := decidable_of_iff _ isStyle_iff.symm

/-- How many bytes behind an escape byte make up a style with it, if it begins one. -/
def styleLength? : Bytes → Option Nat
  | 0x5B :: rest =>
    let count := (rest.takeWhile isParameter).length
    if rest[count]? = some 0x6D then some (count + 2) else none
  | _ => none

/-- The text behind its first `skip` bytes, without styles. -/
def unstyledFrom : Nat → Bytes → Bytes
  | _, [] => []
  | skip + 1, _ :: rest => unstyledFrom skip rest
  | 0, b :: rest =>
    match if b = 0x1B then styleLength? rest else none with
    | some skip => unstyledFrom skip rest
    | none => b :: unstyledFrom 0 rest

def unstyled (t : Bytes) : Bytes := unstyledFrom 0 t

theorem unstyledFrom_eq_drop (skip : Nat) (t : Bytes) : unstyledFrom skip t = unstyled (t.drop skip) := by
  induction skip generalizing t with
  | zero => rfl
  | succ skip ih =>
    cases t with
    | nil => rfl
    | cons b rest => exact ih rest

theorem unstyled_append_of_not_mem {u : Bytes} (hu : 0x1B ∉ u) (t : Bytes) : unstyled (u ++ t) = u ++ unstyled t := by
  induction u with
  | nil => rfl
  | cons b u ih =>
    have hb : b ≠ 0x1B := (List.ne_of_not_mem_cons hu).symm
    have hrest : unstyled (u ++ t) = u ++ unstyled t := ih (List.not_mem_of_not_mem_cons hu)
    rw [List.cons_append, unstyled, unstyledFrom, if_neg hb, List.cons_append, ← hrest]
    rfl

theorem takeWhile_parameters {parameters : Bytes} (h : ∀ b ∈ parameters, isParameter b = true) (t : Bytes) :
    (parameters ++ 0x6D :: t).takeWhile isParameter = parameters := by
  have hend : (0x6D :: t).takeWhile isParameter = [] := rfl
  rw [List.takeWhile_append_of_pos h, hend, List.append_nil]

theorem styleLength?_append {parameters : Bytes} (h : ∀ b ∈ parameters, isParameter b = true) (t : Bytes) :
    styleLength? (0x5B :: (parameters ++ 0x6D :: t)) = some (parameters.length + 2) := by
  rw [styleLength?, takeWhile_parameters h, List.getElem?_append_right (Nat.le_refl _), Nat.sub_self]
  rfl

theorem unstyled_append_of_isStyle {style : Bytes} (h : IsStyle style) (t : Bytes) :
    unstyled (style ++ t) = unstyled t := by
  obtain ⟨parameters, hparameters, rfl⟩ := h
  have hbytes : 0x1B :: 0x5B :: (parameters ++ [0x6D]) ++ t = 0x1B :: 0x5B :: (parameters ++ 0x6D :: t) := by simp
  have hrest : (0x5B :: (parameters ++ 0x6D :: t)).drop (parameters.length + 2) = t := by simp
  rw [hbytes, unstyled, unstyledFrom, if_pos rfl, styleLength?_append hparameters]
  exact (unstyledFrom_eq_drop _ _).trans (congrArg unstyled hrest)

/-! ### Texts with styles put in -/

/-- One style, or several one behind the other. -/
inductive Styling : Bytes → Prop
  | style {s : Bytes} (h : IsStyle s) : Styling s
  | append {s t : Bytes} (hs : Styling s) (ht : Styling t) : Styling (s ++ t)

/-- The first text is the second with styles around some of its pieces, each closed by a reset. All bytes of the second
have the property. -/
inductive Decorates (P : UInt8 → Prop) : Bytes → Bytes → Prop
  | plain {u : Bytes} (hu : ∀ b ∈ u, P b) : Decorates P u u
  | styled {style u : Bytes} (hstyle : Styling style) (hu : ∀ b ∈ u, P b) : Decorates P (style ++ u ++ reset) u
  | append {s t u v : Bytes} (hs : Decorates P s u) (ht : Decorates P t v) : Decorates P (s ++ t) (u ++ v)

/-- Behind every escape byte there is a reset, unless it begins one. -/
def Closes (t : Bytes) : Prop :=
  ∀ before after, t = before ++ 0x1B :: after → reset <+: 0x1B :: after ∨ reset <:+: after

theorem isStyle_reset : IsStyle reset := by decide

theorem closes_of_not_mem {t : Bytes} (h : 0x1B ∉ t) : Closes t := by
  rintro before after rfl
  exact absurd (List.mem_append_right before List.mem_cons_self) h

theorem closes_append {s t : Bytes} (hs : Closes s) (ht : Closes t) : Closes (s ++ t) := by
  intro before after heq
  obtain ⟨rest, rfl, hrest⟩ | ⟨rest, rfl, hrest⟩ := List.append_eq_append_iff.1 heq
  · exact ht rest after hrest
  · -- With nothing left of `s`, the escape byte is the first of `t`.
    cases rest with
    | nil => exact ht [] after hrest.symm
    | cons b rest =>
      obtain ⟨rfl, rfl⟩ := List.cons.inj hrest
      exact (hs before rest rfl).imp (fun h => h.trans (List.prefix_append (0x1B :: rest) t))
        fun h => h.trans (List.prefix_append rest t).isInfix

theorem closes_append_reset (t : Bytes) : Closes (t ++ reset) := by
  have hsingle : ∀ before after, reset = before ++ 0x1B :: after → before = [] := by
    intro before after heq
    have htail : 0x1B ∉ reset.tail := by decide
    cases before with
    | nil => rfl
    | cons b before =>
      refine absurd ?_ htail
      rw [heq]
      simp
  intro before after heq
  obtain ⟨rest, rfl, hrest⟩ | ⟨rest, rfl, hrest⟩ := List.append_eq_append_iff.1 heq
  · obtain rfl := hsingle rest after hrest
    exact .inl (by rw [hrest]; exact List.prefix_rfl)
  · cases rest with
    | nil => exact .inl (by rw [hrest]; exact List.prefix_rfl)
    | cons b rest =>
      obtain ⟨rfl, rfl⟩ := List.cons.inj hrest
      exact .inr (List.suffix_append rest reset).isInfix

theorem infix_of_infix_append {b : UInt8} {r u t : Bytes} (hu : b ∉ u) (h : b :: r <:+: u ++ t) : b :: r <:+: t := by
  obtain ⟨before, after, heq⟩ := h
  rw [List.append_assoc] at heq
  obtain ⟨rest, rfl, hrest⟩ | ⟨rest, rfl, hrest⟩ := List.append_eq_append_iff.1 heq
  · cases rest with
    | nil => exact ⟨[], after, hrest⟩
    | cons b' rest =>
      obtain ⟨rfl, -⟩ := List.cons.inj hrest
      exact absurd (List.mem_append_right before List.mem_cons_self) hu
  · exact ⟨rest, after, by rw [hrest, List.append_assoc]⟩

theorem IsStyle.eq_of_append_eq {s s' t t' : Bytes} (hs : IsStyle s) (hs' : IsStyle s') (h : s ++ t = s' ++ t') :
    s = s' := by
  obtain ⟨parameters, hparameters, rfl⟩ := hs
  obtain ⟨parameters', hparameters', rfl⟩ := hs'
  have hrest : parameters ++ 0x6D :: t = parameters' ++ 0x6D :: t' := by simpa using h
  have hsame := congrArg (List.takeWhile isParameter) hrest
  rw [takeWhile_parameters hparameters, takeWhile_parameters hparameters'] at hsame
  rw [hsame]

theorem Closes.reset_behind {t before style after : Bytes} (h : Closes t) (ht : t = before ++ style ++ after)
    (hstyle : IsStyle style) (hreset : style ≠ reset) : reset <:+: after := by
  obtain ⟨parameters, hparameters, hbytes⟩ := id hstyle
  have hescape : t = before ++ 0x1B :: (0x5B :: (parameters ++ [0x6D]) ++ after) := by
    rw [ht, hbytes, List.append_assoc]
    rfl
  -- A reset that begins where the style does would be the style; one further on begins behind the style's last byte.
  rcases h _ _ hescape with ⟨rest, hstart⟩ | hbehind
  · have hsame : reset ++ rest = style ++ after := by
      rw [hstart, hbytes]
      rfl
    exact absurd (isStyle_reset.eq_of_append_eq hstyle hsame).symm hreset
  · have hfree : 0x1B ∉ 0x5B :: (parameters ++ [0x6D]) := by
      have hparameter : isParameter 0x1B = false := by decide
      have hnot : 0x1B ∉ parameters := fun hmem => by simp [hparameters _ hmem] at hparameter
      simp [hnot]
    exact infix_of_infix_append hfree hbehind

namespace Styling

theorem unstyled_append {style : Bytes} (h : Styling style) (t : Bytes) : unstyled (style ++ t) = unstyled t := by
  induction h generalizing t with
  | style h => exact unstyled_append_of_isStyle h t
  | append _ _ ihs iht => rw [List.append_assoc, ihs, iht]

theorem escape_or_visible {style : Bytes} (h : Styling style) {b : UInt8} (hb : b ∈ style) : b = 0x1B ∨ Visible b := by
  induction h with
  | style h =>
    have hparameter : ∀ b : UInt8, isParameter b = true → Visible b := Numeral.forall_byte (by decide +kernel)
    obtain ⟨parameters, hparameters, rfl⟩ := h
    simp only [List.mem_cons, List.mem_append, List.not_mem_nil, or_false] at hb
    obtain rfl | rfl | hb | rfl := hb
    · exact .inl rfl
    · exact .inr (by decide)
    · exact .inr (hparameter b (hparameters b hb))
    · exact .inr (by decide)
  | append _ _ ihs iht => exact (List.mem_append.1 hb).elim ihs iht

end Styling

namespace Decorates

variable {P : UInt8 → Prop} {s u : Bytes}

theorem unstyled_append (hP : ∀ b, P b → b ≠ 0x1B) (h : Decorates P s u) (t : Bytes) :
    unstyled (s ++ t) = u ++ unstyled t := by
  have hfree : ∀ u : Bytes, (∀ b ∈ u, P b) → 0x1B ∉ u := fun u hu hmem => hP _ (hu _ hmem) rfl
  induction h generalizing t with
  | plain hu => exact unstyled_append_of_not_mem (hfree _ hu) t
  | styled hstyle hu =>
    rw [List.append_assoc, List.append_assoc, hstyle.unstyled_append, unstyled_append_of_not_mem (hfree _ hu),
      unstyled_append_of_isStyle isStyle_reset]
  | append _ _ ihs iht => rw [List.append_assoc, ihs, iht, List.append_assoc]

theorem closes (hP : ∀ b, P b → b ≠ 0x1B) (h : Decorates P s u) : Closes s := by
  induction h with
  | plain hu => exact closes_of_not_mem fun hmem => hP _ (hu _ hmem) rfl
  | styled => exact closes_append_reset _
  | append _ _ ihs iht => exact closes_append ihs iht

/-- Beyond the bytes of the plain text there are only those of styles. -/
theorem of_mem (h : Decorates P s u) {b : UInt8} (hb : b ∈ s) : P b ∨ b = 0x1B ∨ Visible b := by
  induction h with
  | plain hu => exact .inl (hu b hb)
  | styled hstyle hu =>
    rcases List.mem_append.1 hb with hb | hb
    · exact (List.mem_append.1 hb).elim (fun hb => .inr (hstyle.escape_or_visible hb)) fun hb => .inl (hu b hb)
    · exact .inr ((Styling.style isStyle_reset).escape_or_visible hb)
  | append _ _ ihs iht => exact (List.mem_append.1 hb).elim ihs iht

end Decorates

/-! ### The pieces of a report -/

def styles : List Style := [bold, red, fileName, lineNumber] ++ discrepancies.map fun entry => entry.2.1

theorem styling_of_mem_styles {style : Style} (h : style ∈ styles) : Styling style := by
  have hall : ∀ style ∈ styles, IsStyle style := by decide
  exact .style (hall style h)

theorem legible_signed (n : Int) : Legible (Numeral.signed n) := by
  cases n with
  | ofNat n => exact (Numeral.printed_decimal n).legible
  | negSucc n =>
    have hsign : Legible [0x2D] := by decide
    exact legible_append hsign (Numeral.printed_decimal (n + 1)).legible

section

variable {P : UInt8 → Prop} (hvisible : ∀ b, Visible b → P b)

include hvisible

theorem decorates_text {t : Bytes} (ht : Legible t) : Decorates P t t :=
  .plain fun b hb => hvisible b (ht b hb)

theorem decorates_lineMessage {cause : ErrorChain} (hcause : ∀ b ∈ cause.message, P b) (n : Int) :
    Decorates P (lineMessage true n cause) (lineMessage false n cause) := by
  have hnumber : Decorates P (styled true lineNumber (Numeral.signed n)) (styled false lineNumber (Numeral.signed n)) :=
    .styled (styling_of_mem_styles (by decide)) fun b hb => hvisible b (legible_signed n b hb)
  unfold lineMessage
  by_cases hkind : cause.kind = .unknownInstruction
  · rw [if_pos hkind, if_pos hkind]
    exact .append (decorates_text hvisible (by decide)) hnumber
  · rw [if_neg hkind, if_neg hkind]
    cases hentry : discrepancies.lookup cause.kind with
    | none => exact .append (.append (.plain hcause) (decorates_text hvisible (by decide))) hnumber
    | some entry =>
      obtain ⟨style, label⟩ := entry
      obtain ⟨_, _, hsplit, -⟩ := List.lookup_eq_some_iff.1 hentry
      have hmem : (cause.kind, style, label) ∈ discrepancies := by simp [hsplit]
      have hlabel : ∀ entry ∈ discrepancies, Legible (text "(" ++ entry.2.2 ++ text ")") := by decide +kernel
      have hstyle : style ∈ styles := List.mem_append_right _ (List.mem_map.2 ⟨_, hmem, rfl⟩)
      refine .append (.append (.append (decorates_text hvisible (by decide)) hnumber)
        (decorates_text hvisible (by decide))) ?_
      exact .styled (styling_of_mem_styles hstyle) fun b hb => hvisible b (hlabel _ hmem b hb)

theorem decorates_fileMessage {e : AsmError} {own : Bytes} (htoken : ∀ b ∈ e.token, P b) (hown : ∀ b ∈ own, P b) :
    Decorates P ((fileMessage? true e).getD own) ((fileMessage? false e).getD own) := by
  have hfile : Decorates P (text "File " ++ styled true fileName e.token)
      (text "File " ++ styled false fileName e.token) :=
    .append (decorates_text hvisible (by decide)) (.styled (styling_of_mem_styles (by decide)) htoken)
  unfold fileMessage?
  by_cases hmissing : e.kind = .fileMissing
  · rw [if_pos hmissing, if_pos hmissing]
    exact .append hfile (decorates_text hvisible (by decide))
  rw [if_neg hmissing, if_neg hmissing]
  by_cases hformat : e.kind = .wrongFormat
  · rw [if_pos hformat, if_pos hformat]
    exact .append (.append (.append hfile (decorates_text hvisible (by decide)))
      (decorates_text hvisible (by decide))) (decorates_text hvisible (by decide))
  rw [if_neg hformat, if_neg hformat]
  by_cases hempty : e.kind = .emptyProgram
  · rw [if_pos hempty]
    exact decorates_text (t := text "No instructions.") hvisible (by decide)
  · rw [if_neg hempty]
    exact .plain hown

theorem decorates_message {e : ErrorChain} (htext : ∀ b ∈ e.message, P b)
    (htoken : ∀ c, e.classified? = some c → ∀ b ∈ c.token, P b) : Decorates P (message true e) (message false e) := by
  unfold message
  cases hline : e.line? with
  | some place =>
    obtain ⟨n, cause⟩ := place
    exact decorates_lineMessage hvisible (fun b hb => htext b ((ErrorChain.message_infix_of_line? hline).subset hb)) n
  | none =>
    cases hclassified : e.classified? with
    | none => exact .plain htext
    | some c => exact decorates_fileMessage hvisible (htoken c hclassified) htext

end

def firstLine (color : Bool) (e : ErrorChain) : Bytes :=
  styled color bold (text "SLIP-8 the CHIP-8 Compiler: ") ++ styled color (bold ++ red) (text "Error:") ++ text " " ++
    message color e

theorem report_eq (color : Bool) (e : ErrorChain) : report color e =
    firstLine color e ++ text "\nCompilation terminated.\n" := rfl

/-- A byte that is not visible gets into the line only from the error. -/
theorem decorates_firstLine {x : UInt8} (hx : ¬Visible x) {e : ErrorChain} (htext : x ∉ e.message)
    (htoken : ∀ c, e.classified? = some c → x ∉ c.token) :
    Decorates (· ≠ x) (firstLine true e) (firstLine false e) := by
  have hvisible : ∀ b, Visible b → b ≠ x := by
    rintro b hb rfl
    exact hx hb
  have hbold : Styling bold := styling_of_mem_styles (by decide)
  have hred : Styling red := styling_of_mem_styles (by decide)
  have hbanner : Legible (text "SLIP-8 the CHIP-8 Compiler: ") := by decide
  have herror : Legible (text "Error:") := by decide
  refine .append (.append (.append ?_ ?_) (decorates_text hvisible (by decide))) (decorates_message hvisible ?_ ?_)
  · exact .styled hbold fun b hb => hvisible b (hbanner b hb)
  · exact .styled (hbold.append hred) fun b hb => hvisible b (herror b hb)
  · intro b hb
    exact ne_of_mem_of_not_mem hb htext
  · intro c hc b hb
    exact ne_of_mem_of_not_mem hb (htoken c hc)

/-- Colours only decorate: without its styles, a coloured report is the plain one. Every style that its first line turns
on is turned off by a reset in that line, and the line holds no newline but those of the error's own text and token. -/
theorem colours_only_decorate {e : ErrorChain} (htext : 0x1B ∉ e.message)
    (htoken : ∀ c, e.classified? = some c → 0x1B ∉ c.token) :
    unstyled (report true e) = report false e ∧
      ∃ line, report true e = line ++ text "\n" ++ text "Compilation terminated." ++ text "\n" ∧
        (∀ before style after, line = before ++ style ++ after → IsStyle style → style ≠ reset → reset <:+: after) ∧
        (0x0A ∉ e.message → (∀ c, e.classified? = some c → 0x0A ∉ c.token) → 0x0A ∉ line) := by
  have hdecorates : Decorates (· ≠ 0x1B) (firstLine true e) (firstLine false e) :=
    decorates_firstLine (by decide) htext htoken
  refine ⟨?_, firstLine true e, ?_, ?_, ?_⟩
  · rw [report_eq, report_eq, hdecorates.unstyled_append fun _ h => h]
    rfl
  · rw [report_eq, List.append_assoc, List.append_assoc]
    rfl
  · intro before style after hline hstyle hreset
    exact (hdecorates.closes fun _ h => h).reset_behind hline hstyle hreset
  · intro hnone hnone' hmem
    have hnewline : ¬Visible 0x0A := by decide
    obtain h | h | h := (decorates_firstLine hnewline hnone hnone').of_mem hmem
    · exact h rfl
    · exact absurd h (by decide)
    · exact hnewline h

/-- A missing file whose name reads like the end of a style and goes on in a second line. -/
theorem colours_only_decorate_bracketed_name :
    let e : ErrorChain := .context (text "load") (.classified ⟨.fileMissing, text "[31m\n.c8asm", text "not there"⟩)
    (0x1B ∉ e.message ∧ ∀ c, e.classified? = some c → 0x1B ∉ c.token) ∧
      unstyled (report true e) = report false e ∧
      report false e = text "SLIP-8 the CHIP-8 Compiler: Error: File [31m\n.c8asm does not exist." ++ text "\n" ++
        text "Compilation terminated." ++ text "\n" := by
  intro e
  have htext : 0x1B ∉ e.message := by decide
  have htoken : ∀ c, e.classified? = some c → 0x1B ∉ c.token := by
    intro c hc
    obtain rfl := Option.some.inj hc
    decide
  exact ⟨⟨htext, htoken⟩, (colours_only_decorate htext htoken).1, by decide⟩

end Diagnostic

end Chip8
