import Chip8.Files
import Chip8.Proofs.Text.Words
import Mathlib.Data.List.TakeDrop

/-!
# Storing files

What is stored under a path is found there afterwards, and a path that leads elsewhere leads to what it
led to. Whether it succeeds or fails half way, storing puts a node at one place at most, which is no directory,
and a walk only asks for the directories on its way, so no walk that arrives is diverted.

Two paths whose extensions differ never lead to one place: the last part of a path, if it is a name, is
the last name of the place. Paths that differ in nothing but the ending of that name lead to one folder.
-/

namespace Chip8

namespace Path

variable {path stem ending : Bytes}

theorem getLast?_splitOn (path : Bytes) : (Bytes.splitOn 0x2F path).getLast? = some (lastPart path) := by
  unfold lastPart
  rw [List.getLast?_eq_some_getLast (Bytes.splitOn_ne_nil _ _)]
  rfl

theorem lastPart_append (hending : 0x2F ∉ ending) : lastPart (stem ++ ending) = lastPart stem ++ ending := by
  obtain ⟨front, last, hstem, hboth⟩ := Bytes.splitOn_append hending stem
  simp [lastPart, hstem, hboth]

theorem lastDotted_append (hdot : 0x2E ∉ ending) : lastDotted (stem ++ 0x2E :: ending) = 0x2E :: ending := by
  have hfree : ∀ b ∈ ending.reverse, decide (b ≠ 0x2E) = true := by
    intro b hb
    have hne : b ≠ 0x2E := by
      rintro rfl
      exact hdot (List.mem_reverse.1 hb)
    simpa using hne
  have hreverse : (stem ++ 0x2E :: ending).reverse = ending.reverse ++ 0x2E :: stem.reverse := by simp
  unfold lastDotted
  rw [hreverse, List.span_eq_takeWhile_dropWhile, List.takeWhile_append_of_pos hfree,
    List.dropWhile_append_of_pos hfree]
  simp

theorem extension_append (hslash : 0x2F ∉ ending) (hdot : 0x2E ∉ ending) :
    extension (stem ++ 0x2E :: ending) = 0x2E :: ending := by
  have hlast : lastPart (stem ++ 0x2E :: ending) = lastPart stem ++ 0x2E :: ending :=
    lastPart_append (by simp [hslash])
  rw [extension, hlast, lastDotted_append hdot]

/-- A part of a path that is a name, and not a step to where the walk is or above. -/
def IsName (part : Bytes) : Prop := part ≠ [] ∧ part ≠ text "." ∧ part ≠ text ".."

theorem isName_lastPart (h : 1 < (extension path).length) : IsName (lastPart path) := by
  rw [extension] at h
  refine ⟨?_, ?_, ?_⟩ <;> intro hlast <;> rw [hlast] at h <;> exact absurd h (by decide)

end Path

namespace FileTree

variable {t : FileTree} {p q start : Place} {node : FileNode} {path data : Bytes}

@[simp] theorem here_put : (t.put p node).here = t.here := by
  unfold put
  split <;> rfl

theorem lookup_map_put (entries : List (Place × FileNode)) :
    (entries.map fun e => if e.1 = p then (p, node) else e).lookup q =
      if q = p then (entries.lookup p).map fun _ => node else entries.lookup q := by
  induction entries with
  | nil => simp
  | cons e entries ih =>
    by_cases he : e.1 = p <;> by_cases hq : q = p <;> grind

theorem any_place_iff (entries : List (Place × FileNode)) :
    entries.any (fun e => e.1 = p) ↔ (entries.lookup p).isSome := by
  induction entries with
  | nil => simp
  | cons e entries ih => grind

theorem lookup_put : (t.put p node).entries.lookup q = if q = p then some node else t.entries.lookup q := by
  unfold put
  simp only [any_place_iff]
  cases hlookup : t.entries.lookup p with
  | some old =>
    show List.lookup q (t.entries.map _) = _
    rw [lookup_map_put, hlookup]
    rfl
  | none =>
    show List.lookup q (t.entries ++ _) = _
    rw [List.lookup_append]
    by_cases hq : q = p
    · subst hq
      simp [hlookup]
    · have hneq : (q == p) = false := beq_eq_false_iff_ne.2 hq
      simp [hq, hneq, List.lookup_cons]

theorem node?_put_self (hp : p ≠ []) : (t.put p node).node? p = some node := by
  simp [node?, lookup_put, hp]

theorem node?_put_of_ne (h : q ≠ p) : (t.put p node).node? q = t.node? q := by
  simp [node?, lookup_put, h]

theorem ne_nil_of_not_directory (hp : t.node? p ≠ some .directory) : p ≠ [] := by
  rintro rfl
  exact hp rfl

theorem walk_put (hp : t.node? p ≠ some .directory) {parts : List Bytes} (hwalk : t.walk start parts = .ok q) :
    (t.put p node).walk start parts = .ok q := by
  induction parts generalizing start with
  | nil => exact hwalk
  | cons part parts ih =>
    simp only [walk] at hwalk ⊢
    split_ifs at hwalk ⊢ with hstay hup hlong hlast
    · exact ih hwalk
    · exact ih hwalk
    · exact hwalk
    · cases hnode : t.node? (start ++ [part]) with
      | none => simp [hnode] at hwalk
      | some below =>
        cases below with
        | directory =>
          -- The way on leads through a directory, and `p` is none.
          have hne : start ++ [part] ≠ p := by
            rintro rfl
            exact hp hnode
          rw [node?_put_of_ne hne, hnode]
          exact ih (by simpa [hnode] using hwalk)
        | regular _ | flawed _ _ | fullDisk | serialLine => simp [hnode] at hwalk

theorem resolve_put (hp : t.node? p ≠ some .directory) (hpath : t.resolve path = .ok q) :
    (t.put p node).resolve path = .ok q := by
  simp only [resolve, here_put] at hpath ⊢
  split_ifs at hpath ⊢ <;> exact walk_put hp hpath

/-- The path leads to a regular file or to a free place of a directory. -/
def Writable (t : FileTree) (path : Bytes) : Prop :=
  ∃ place, t.resolve path = .ok place ∧ (t.node? place = none ∨ ∃ data, t.node? place = some (.regular data))

theorem store_of_writable (hpath : t.Writable path) (data : Bytes) : ∃ place, t.resolve path = .ok place ∧
    t.node? place ≠ some .directory ∧ t.store path data = (.ok (), t.put place (.regular data)) := by
  obtain ⟨place, hplace, hnode | ⟨old, hnode⟩⟩ := hpath
  · exact ⟨place, hplace, by simp [hnode], by simp [store, hplace, hnode]⟩
  · exact ⟨place, hplace, by simp [hnode], by simp [store, hplace, hnode]⟩

theorem contents_store (hpath : t.Writable path) (data : Bytes) :
    (t.store path data).2.contents path = .ok data := by
  obtain ⟨place, hplace, hfree, hstore⟩ := store_of_writable hpath data
  have hplace_ne : place ≠ [] := ne_nil_of_not_directory hfree
  simp [hstore, contents, stat, resolve_put hfree hplace, node?_put_self hplace_ne, FileNode.data?]

theorem exists_resolve_of_stat (h : t.stat path = .ok node) : ∃ place, t.resolve path = .ok place := by
  unfold stat at h
  cases hplace : t.resolve path with
  | error cause => simp [hplace] at h
  | ok place => exact ⟨place, rfl⟩

theorem store_eq_or_put (t : FileTree) (path data : Bytes) : (t.store path data).2 = t ∨ ∃ place node,
    t.resolve path = .ok place ∧ t.node? place ≠ some .directory ∧ (t.store path data).2 = t.put place node := by
  cases hplace : t.resolve path with
  | error cause => exact .inl (by simp [store, hplace])
  | ok place =>
    cases hnode : t.node? place with
    | none => exact .inr ⟨place, .regular data, rfl, by simp [hnode], by simp [store, hplace, hnode]⟩
    | some node =>
      cases node with
      | directory | fullDisk | serialLine => exact .inl (by simp [store, hplace, hnode])
      | regular old => exact .inr ⟨place, .regular data, rfl, by simp [hnode], by simp [store, hplace, hnode]⟩
      | flawed old flaw =>
        exact .inr ⟨place, .flawed (flaw.store path old data).2 flaw, rfl, by simp [hnode],
          by simp [store, hplace, hnode]⟩

theorem stat_store_of_ne {other : Bytes} (hother : t.resolve other = .ok q) (hne : t.resolve path ≠ .ok q) :
    (t.store path data).2.stat other = t.stat other := by
  obtain hsame | ⟨place, node, hplace, hfree, hput⟩ := store_eq_or_put t path data
  · rw [hsame]
  · have hq : q ≠ place := by
      rintro rfl
      exact hne hplace
    simp [hput, stat, resolve_put hfree hother, node?_put_of_ne hq, hother]

theorem resolve_of_node?_store_ne (h : (t.store path data).2.node? p ≠ t.node? p) : t.resolve path = .ok p := by
  obtain hsame | ⟨place, node, hplace, -, hput⟩ := store_eq_or_put t path data
  · exact absurd (by rw [hsame]) h
  · have hp : p = place := by
      by_contra hp
      exact h (by rw [hput, node?_put_of_ne hp])
    rw [hp, hplace]

theorem getLast?_of_cons {part first : Bytes} {parts : List Bytes} (hlast : (first :: parts).getLast? = some part)
    (h : parts ≠ [] ∨ first ≠ part) : parts.getLast? = some part := by
  cases parts with
  | nil =>
    obtain rfl : first = part := by simpa using hlast
    simp at h
  | cons next parts => simpa using hlast

theorem getLast?_of_walk {parts : List Bytes} {part : Bytes} (hpart : Path.IsName part)
    (hlast : parts.getLast? = some part) (hwalk : t.walk start parts = .ok q) : q.getLast? = some part := by
  fun_induction walk t start parts with
  | case1 start => simp at hlast
  | case2 start first parts hstay ih =>
    have hne : first ≠ part := by
      rintro rfl
      simp [hpart.1, hpart.2.1] at hstay
    exact ih (getLast?_of_cons hlast (.inr hne)) hwalk
  | case3 start parts hstay ih => exact ih (getLast?_of_cons hlast (.inr hpart.2.2.symm)) hwalk
  | case4 start first parts hstay hup hlong => cases hwalk
  | case5 start first parts hstay hup hlong hend =>
    obtain rfl : parts = [] := by simpa using hend
    obtain rfl : first = part := by simpa using hlast
    simp [← Except.ok.inj hwalk]
  | case6 start first parts hstay hup hlong hmore hnode => cases hwalk
  | case7 start first parts hstay hup hlong hmore hnode ih =>
    have hparts : parts ≠ [] := by simpa using hmore
    exact ih (getLast?_of_cons hlast (.inl hparts)) hwalk
  | case8 start first parts hstay hup hlong hmore node hnode hfile => cases hwalk

theorem getLast?_of_resolve (hpart : Path.IsName (Path.lastPart path)) (hpath : t.resolve path = .ok q) :
    q.getLast? = some (Path.lastPart path) := by
  simp only [resolve] at hpath
  split_ifs at hpath <;> exact getLast?_of_walk hpart (Path.getLast?_splitOn path) hpath

theorem resolve_ne_of_extension_ne {other : Bytes} (hpath : 1 < (Path.extension path).length)
    (hother : 1 < (Path.extension other).length) (hne : Path.extension path ≠ Path.extension other)
    (hq : t.resolve path = .ok q) : t.resolve other ≠ .ok q := by
  intro hsame
  have hlast : Path.lastPart path = Path.lastPart other := by
    apply Option.some.inj
    rw [← getLast?_of_resolve (Path.isName_lastPart hpath) hq,
      ← getLast?_of_resolve (Path.isName_lastPart hother) hsame]
  exact hne (by rw [Path.extension, Path.extension, hlast])

theorem walk_singleton {name : Bytes} (hname : Path.IsName name) :
    t.walk start [name] = if name.length > maxName then .error .nameTooLong else .ok (start ++ [name]) := by
  obtain ⟨hempty, hdot, hdots⟩ := hname
  simp [walk, hempty, hdot, hdots]

theorem walk_concat {front : List Bytes} {name name' : Bytes} (hname : Path.IsName name)
    (hname' : Path.IsName name') (hlength : name'.length ≤ name.length) (h : t.walk start (front ++ [name]) = .ok q) :
    ∃ folder, q = folder ++ [name] ∧ t.walk start (front ++ [name']) = .ok (folder ++ [name']) := by
  induction front generalizing start with
  | nil =>
    rw [List.nil_append, walk_singleton hname] at h
    split_ifs at h with hlong
    have hshort : ¬name'.length > maxName := by omega
    refine ⟨start, (Except.ok.inj h).symm, ?_⟩
    rw [List.nil_append, walk_singleton hname', if_neg hshort]
  | cons part front ih =>
    simp only [List.cons_append, walk] at h ⊢
    have hmore (last : Bytes) : ¬(front ++ [last]).isEmpty = true := by simp
    rw [if_neg (hmore _)] at h ⊢
    split_ifs at h ⊢ with hstay hup hlong
    · exact ih h
    · exact ih h
    · cases hnode : t.node? (start ++ [part]) with
      | none => simp [hnode] at h
      | some below =>
        cases below with
        | directory =>
          rw [hnode] at h
          exact ih h
        | regular _ | flawed _ _ | fullDisk | serialLine => simp [hnode] at h

theorem resolve_eq_ok_iff : t.resolve path = .ok q ↔ 0 ∉ path ∧ path ≠ [] ∧ path.length ≤ maxPath ∧
    t.walk (if path.head? = some 0x2F then [] else t.here) (Bytes.splitOn 0x2F path) = .ok q := by
  unfold resolve
  by_cases hzero : 0 ∈ path
  · simp [hzero]
  · by_cases hempty : path = []
    · simp [hempty]
    · by_cases hlong : path.length ≤ maxPath
      · simp [hzero, hempty, hlong, Nat.not_lt.2 hlong]
      · simp [hzero, hempty, hlong, Nat.not_le.1 hlong]

/-- Paths that differ only in the ending of their last names lead to one folder. -/
theorem resolve_append {stem ending ending' : Bytes} (hslash : 0x2F ∉ ending) (hslash' : 0x2F ∉ ending')
    (hzero' : 0 ∉ ending') (hname : Path.IsName (Path.lastPart (stem ++ ending)))
    (hname' : Path.IsName (Path.lastPart (stem ++ ending'))) (hlength : ending'.length ≤ ending.length)
    (h : t.resolve (stem ++ ending) = .ok q) :
    ∃ folder, q = folder ++ [Path.lastPart stem ++ ending] ∧
      t.resolve (stem ++ ending') = .ok (folder ++ [Path.lastPart stem ++ ending']) := by
  obtain ⟨front, last, hstem, hboth⟩ := Bytes.splitOn_append hslash stem
  obtain ⟨front', last', hstem', hboth'⟩ := Bytes.splitOn_append hslash' stem
  obtain ⟨rfl, hlast⟩ := List.append_inj' (hstem'.symm.trans hstem) rfl
  obtain rfl : last' = last := List.head_eq_of_cons_eq hlast
  have hlastPart : Path.lastPart stem = last' := by simp [Path.lastPart, hstem]
  have hhead : (stem ++ ending).head? = some 0x2F ↔ (stem ++ ending').head? = some 0x2F := by
    cases stem with
    | nil =>
      constructor
      · intro hmem
        exact absurd (List.mem_of_mem_head? hmem) hslash
      · intro hmem
        exact absurd (List.mem_of_mem_head? hmem) hslash'
    | cons b stem => rfl
  have hsome : stem ++ ending' ≠ [] := by
    intro hnil
    rw [hnil] at hname'
    exact hname'.1 rfl
  rw [Path.lastPart_append hslash, hlastPart] at hname
  rw [Path.lastPart_append hslash', hlastPart] at hname'
  obtain ⟨hzero, -, hlong, hwalk⟩ := resolve_eq_ok_iff.1 h
  rw [hboth] at hwalk
  obtain ⟨folder, hq, hwalk'⟩ := walk_concat hname hname' (by simpa using hlength) hwalk
  refine ⟨folder, hlastPart ▸ hq, resolve_eq_ok_iff.2 ⟨?_, hsome, ?_, ?_⟩⟩
  · simp_all
  · simp only [List.length_append] at hlong ⊢
    omega
  · rw [hboth', hlastPart]
    simpa only [hhead] using hwalk'

end FileTree

end Chip8
