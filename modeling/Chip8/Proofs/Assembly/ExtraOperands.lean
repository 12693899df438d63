import Chip8.Proofs.Assembly.Diagnosis

/-!
# Operands too many

A form looks at as many operands as its mnemonic asks for, so whatever stands behind them changes neither the
word of a line nor the error it is refused with. The jump is the exception: it counts its operands to tell a plain
jump from one that is offset, and a second operand, be it only a blank at the end of the line, makes it the other
form (`encode_extra_operands`).
-/

namespace Chip8

open Grammar Operand Reading

namespace Mnemonic

variable {m : Mnemonic} {name s t : Bytes} {operands : List Bytes}

theorem readJump_of_ne (hs : s ≠ text "V0") (rest : List Bytes) : readJump name (s :: t :: rest) =
    throw ⟨.wrongRegister, s, name ++ text ": can't offset by " ++ s ++ text ", only by V0"⟩ := by
  simp [readJump, operandAt_cons_zero, hs]

theorem readJump_offset (name t : Bytes) (rest : List Bytes) :
    readJump name (text "V0" :: t :: rest) = do return .jumpOffset (← address name t) := by
  simp [readJump, operandAt_cons_zero, operandAt_cons_succ]

/-- With enough operands, and with two at least behind a jump, the operands behind them are not looked at. -/
theorem select_append (h : m.arity ≤ operands.length) (hjump : m = .jp → operands.length ≠ 1) (more : List Bytes) :
    m.select (operands ++ more) = m.select operands := by
  -- Taken apart as far as the readers look, the two lists differ only in what no reader reaches.
  match m, operands, h with
  | nop, _, _ | cls, _, _ | ret, _, _ => rfl
  | call, _ :: _, _ | skp, _ :: _, _ | sknp, _ :: _, _ => rfl
  | jp, [_], _ => exact absurd rfl (hjump rfl)
  | jp, s :: t :: rest, _ =>
    by_cases hs : s = text "V0"
    · subst hs
      exact (readJump_offset _ t (rest ++ more)).trans (readJump_offset _ t rest).symm
    · exact (readJump_of_ne hs (rest ++ more)).trans (readJump_of_ne hs rest).symm
  | se, _ :: _ :: _, _ | ld, _ :: _ :: _, _ | add, _ :: _ :: _, _ | rnd, _ :: _ :: _, _ => rfl
  | or, _ :: _ :: _, _ | and, _ :: _ :: _, _ | xor, _ :: _ :: _, _ | sub, _ :: _ :: _, _ | shr, _ :: _ :: _, _
  | subn, _ :: _ :: _, _ | shl, _ :: _ :: _, _ | sne, _ :: _ :: _, _ => rfl
  | drw, _ :: _ :: _ :: _, _ => rfl

end Mnemonic

namespace Statement

variable {line extra word : Bytes} {words more : List Bytes}

theorem ofLine?_of_splitOn (h : Bytes.splitOn 0x20 line = word :: words) :
    ofLine? line = some ⟨word, operandsOf words⟩ := by
  rw [ofLine?, h]
  rfl

theorem ofLine?_append_extra (h : Bytes.splitOn 0x20 line = word :: words) (hextra : Bytes.splitOn 0x20 extra = more) :
    ofLine? (line ++ text " " ++ extra) = some ⟨word, operandsOf words ++ operandsOf more⟩ := by
  have hblank : line ++ text " " ++ extra = line ++ 0x20 :: extra := by
    rw [List.append_assoc]
    rfl
  rw [← operandsOf_append]
  apply ofLine?_of_splitOn
  rw [hblank, Bytes.splitOn_append_separator, h, hextra, List.cons_append]

theorem encode_eq_map_of_run {s : Statement} {result : Except AsmError Instruction} (h : ofLine? line = some s)
    (hread : s.read.run = some result) : encode line = result.map Instruction.opcode := by
  rw [run_read_of_ofLine? h] at hread
  rw [encode, Option.some.inj hread]

theorem encode_eq_of_read_eq {line' : Bytes} {s s' : Statement} (h : ofLine? line = some s)
    (h' : ofLine? line' = some s') (hread : s.read = s'.read) : encode line = encode line' := by
  have hrun := run_read_of_ofLine? h
  rw [hread, run_read_of_ofLine? h'] at hrun
  rw [encode, encode, Option.some.inj hrun]

end Statement

open Statement

/-- What comes of a jump that is offset by `base` and goes to `target`. -/
inductive OffsetJump (base target : Bytes) : Except AsmError Opcode → Prop
  | encoded {a : Address} {op : Opcode} (hbase : base = text "V0") (htarget : AddressText target a)
    (hop : op.word = 0xB000 + a.value) : OffsetJump base target (.ok op)
  | lost {e : AsmError} (hbase : base = text "V0") (htarget : ¬∃ a, AddressText target a)
    (hkind : e.kind = .notMemoryLocation) (htoken : e.token = target) : OffsetJump base target (.error e)
  | offBase {e : AsmError} (hbase : base ≠ text "V0") (hkind : e.kind = .wrongRegister) (htoken : e.token = base) :
    OffsetJump base target (.error e)

theorem offsetJump_encode {line base target : Bytes} {rest : List Bytes}
    (h : ofLine? line = some ⟨Mnemonic.jp.name, base :: target :: rest⟩) : OffsetJump base target (encode line) := by
  have hread : Statement.read ⟨Mnemonic.jp.name, base :: target :: rest⟩ =
      Mnemonic.readJump Mnemonic.jp.name (base :: target :: rest) := by
    apply read_of_arity_le
    simp [Mnemonic.arity]
  by_cases hbase : base = text "V0"
  · subst hbase
    rw [Mnemonic.readJump_offset] at hread
    obtain ⟨result, hresult⟩ := Option.isSome_iff_exists.1 (answers_address Mnemonic.jp.name target)
    have hencode : encode line = (result.map Instruction.jumpOffset).map Instruction.opcode := by
      apply encode_eq_map_of_run h
      rw [hread, ExceptT.run_bind, hresult]
      cases result <;> rfl
    rw [hencode]
    cases result with
    | ok a => exact .encoded rfl (address_eq_pure_iff.1 hresult) (Instruction.word_opcode (.jumpOffset a))
    | error e =>
      obtain ⟨htarget, hkind, htoken⟩ := (plays_address Mnemonic.jp.name target).fails e hresult
      exact .lost rfl htarget hkind htoken
  · rw [Mnemonic.readJump_of_ne hbase] at hread
    rw [encode_eq_map_of_run h (congrArg ExceptT.run hread)]
    exact .offBase hbase rfl rfl

/-- A line of which neither the operands nor the form are left open means the same whatever is put behind it. -/
theorem encode_append_extra {line : Bytes} (hfew : ∀ e, encode line = .error e → e.kind ≠ .notEnoughValues)
    (hjump : ∀ w, Bytes.splitOn 0x20 line ≠ [text "jp", w]) (extra : Bytes) :
    encode (line ++ text " " ++ extra) = encode line := by
  obtain ⟨word, words, hsplit⟩ := List.exists_cons_of_ne_nil (Bytes.splitOn_ne_nil 0x20 line)
  have hline := ofLine?_of_splitOn hsplit
  apply encode_eq_of_read_eq (ofLine?_append_extra hsplit rfl) hline
  by_cases hword : UnknownWord word
  · rw [read_of_unknownWord hword, read_of_unknownWord hword]
  · obtain ⟨m, rfl⟩ := not_unknownWord_iff.1 hword
    have henough : m.arity ≤ (operandsOf words).length := by
      by_contra hlacks
      have hread := congrArg ExceptT.run (read_of_lt_arity (Nat.not_le.1 hlacks))
      exact hfew _ (encode_eq_map_of_run hline hread) rfl
    have hone : m = .jp → (operandsOf words).length ≠ 1 := by
      rintro rfl hlength
      rw [length_operandsOf] at hlength
      obtain ⟨w, rfl⟩ := List.length_eq_one_iff.1 hlength
      exact hjump w hsplit
    rw [read_of_arity_le henough, read_of_arity_le, Mnemonic.select_append henough hone]
    rw [List.length_append]
    omega

/-- Extra operands are ignored: a line keeps its word or its error, unless it lacks operands or is a jump with one
operand. Such a jump becomes one that is offset by its operand and goes to the first of the extra words. -/
theorem encode_extra_operands (line extra : Bytes) :
    ((∀ e, encode line = .error e → e.kind ≠ .notEnoughValues) → (∀ w, Bytes.splitOn 0x20 line ≠ [text "jp", w]) →
      encode (line ++ text " " ++ extra) = encode line) ∧
    ∀ w first rest, Bytes.splitOn 0x20 line = [text "jp", w] → Bytes.splitOn 0x20 extra = first :: rest →
      OffsetJump (Bytes.dropFinal 0x2C w) (Bytes.dropFinal 0x2C first) (encode (line ++ text " " ++ extra)) := by
  refine ⟨fun hfew hjump => encode_append_extra hfew hjump extra, ?_⟩
  intro w first rest hline hextra
  exact offsetJump_encode (ofLine?_append_extra hline hextra)

/-- A remark behind a sprite is ignored; a blank behind a jump is a second operand, and makes an address the wrong
register to offset by. -/
theorem encode_extra_operands_remark :
    encode (text "drw V1, V2, 5") = .ok ⟨0xD1, 0x25⟩ ∧
      encode (text "drw V1, V2, 5" ++ text " " ++ text "; five rows,  at once") = .ok ⟨0xD1, 0x25⟩ ∧
      encode (text "jp 2A0") = .ok ⟨0x12, 0xA0⟩ ∧
      OffsetJump (text "2A0") [] (encode (text "jp 2A0" ++ text " " ++ [])) ∧
      OffsetJump (text "V0") (text "2A0") (encode (text "jp V0," ++ text " " ++ text "2A0, or so")) := by
  have hdraw : encode (text "drw V1, V2, 5") = .ok ⟨0xD1, 0x25⟩ := by rfl
  have hfew : ∀ e, encode (text "drw V1, V2, 5") = .error e → e.kind ≠ .notEnoughValues := by
    intro e he
    cases hdraw.symm.trans he
  have hjump : ∀ w, Bytes.splitOn 0x20 (text "drw V1, V2, 5") ≠ [text "jp", w] := by
    intro w hw
    cases congrArg List.length hw
  have hextra := (encode_extra_operands (text "drw V1, V2, 5") (text "; five rows,  at once")).1 hfew hjump
  have hblank : Bytes.splitOn 0x20 [] = [[]] := rfl
  have hbase : Bytes.splitOn 0x20 (text "jp V0,") = [text "jp", text "V0,"] := by decide
  have htarget : Bytes.splitOn 0x20 (text "2A0, or so") = [text "2A0,", text "or", text "so"] := by decide
  refine ⟨hdraw, hextra.trans hdraw, rfl, ?_, ?_⟩
  · exact (encode_extra_operands _ _).2 (text "2A0") [] [] (by decide) hblank
  · exact (encode_extra_operands _ _).2 (text "V0,") _ _ hbase htarget

end Chip8
