import Chip8.Proofs.Command.Footprint

/-!
# The file an image goes to by default

If no name is given, the image goes beside its source, under the name of the source with the extension replaced.
The name is found in two steps: the extension of sources is taken away, and that of images is added unless it is
there already. So a source whose name without its extension is that of an image goes to this very name, and there
it meets the image of another source. Where this cannot happen, different sources have different images.
-/

namespace Chip8

open Program

theorem Bytes.dropEnding_append (stem ending : Bytes) : dropEnding ending (stem ++ ending) = stem := by
  have hsuffix : ending.isSuffixOf (stem ++ ending) := List.isSuffixOf_iff_suffix.2 (List.suffix_append _ _)
  rw [dropEnding, if_pos hsuffix, List.length_append, Nat.add_sub_cancel, List.take_left]

namespace Image

variable {stem stem' : Bytes}

theorem fileName_of_suffix (h : extension <:+ stem) : fileName stem = stem :=
  if_pos (List.isSuffixOf_iff_suffix.2 h)

theorem fileName_of_not_suffix (h : ¬extension <:+ stem) : fileName stem = stem ++ extension :=
  if_neg (mt List.isSuffixOf_iff_suffix.1 h)

/-- Two names give one file only if one of them is the other with the extension. -/
theorem fileName_eq_fileName_iff (hne : stem ≠ stem') : fileName stem = fileName stem' ↔
    (stem = stem' ++ extension ∧ ¬extension <:+ stem') ∨ (stem' = stem ++ extension ∧ ¬extension <:+ stem) := by
  have hsuffix (name : Bytes) : extension <:+ name ++ extension := List.suffix_append _ _
  by_cases h : extension <:+ stem
  · by_cases h' : extension <:+ stem'
    · simp [fileName_of_suffix h, fileName_of_suffix h', hne, h, h']
    · simp [fileName_of_suffix h, fileName_of_not_suffix h', h, h']
  · by_cases h' : extension <:+ stem'
    · simp [fileName_of_not_suffix h, fileName_of_suffix h', h, h', eq_comm]
    · have hleft : stem ≠ stem' ++ extension := fun heq => h (heq ▸ hsuffix stem')
      have hright : stem' ≠ stem ++ extension := fun heq => h' (heq ▸ hsuffix stem)
      simp [fileName_of_not_suffix h, fileName_of_not_suffix h', hne, hleft, hright]

/-- A source and its image share a folder and what their names begin with. -/
theorem exists_resolve_fileName {t : FileTree} {p : Place} (h : t.resolve (stem ++ Source.extension) = .ok p) :
    ∃ folder first, t.resolve (fileName stem) = .ok (folder ++ [first ++ extension]) ∧
      p = folder ++ [first ++ if extension <:+ stem then extension ++ Source.extension else Source.extension] := by
  have hcommon {first ending : Bytes} (hslash : 0x2F ∉ ending) (hlength : extension.length ≤ ending.length)
      (hext : Path.extension (first ++ ending) = Source.extension) (hfirst : t.resolve (first ++ ending) = .ok p) :
      ∃ folder, p = folder ++ [Path.lastPart first ++ ending] ∧
        t.resolve (first ++ extension) = .ok (folder ++ [Path.lastPart first ++ extension]) := by
    have hext' : Path.extension (first ++ extension) = extension :=
      Path.extension_append (by decide) (by decide)
    apply FileTree.resolve_append hslash (by decide) (by decide) _ _ hlength hfirst
    · apply Path.isName_lastPart
      rw [hext]
      decide
    · apply Path.isName_lastPart
      rw [hext']
      decide
  have hext (name : Bytes) : Path.extension (name ++ Source.extension) = Source.extension :=
    Path.extension_append (by decide) (by decide)
  by_cases hstem : extension <:+ stem
  · obtain ⟨first, rfl⟩ := hstem
    rw [List.append_assoc] at h
    obtain ⟨folder, hp, himage⟩ := hcommon (by decide) (by decide) (List.append_assoc .. ▸ hext _) h
    refine ⟨folder, Path.lastPart first, ?_, ?_⟩
    · rw [fileName_of_suffix (List.suffix_append _ _), himage]
    · rw [if_pos (List.suffix_append _ _), hp]
  · obtain ⟨folder, hp, himage⟩ := hcommon (by decide) (by decide) (hext stem) h
    refine ⟨folder, Path.lastPart stem, ?_, ?_⟩
    · rw [fileName_of_not_suffix hstem, himage]
    · rw [if_neg hstem, hp]

/-- Sources at different places have their images at different places, unless the name of one image is made by
adding the extension and that of the other is not. -/
theorem resolve_fileName_ne {t : FileTree} {p p' : Place} (h : t.resolve (stem ++ Source.extension) = .ok p)
    (h' : t.resolve (stem' ++ Source.extension) = .ok p') (hne : p ≠ p')
    (hsame : extension <:+ stem ↔ extension <:+ stem') :
    ∃ q', t.resolve (fileName stem') = .ok q' ∧ t.resolve (fileName stem) ≠ .ok q' := by
  obtain ⟨folder, first, himage, rfl⟩ := exists_resolve_fileName h
  obtain ⟨folder', first', himage', rfl⟩ := exists_resolve_fileName h'
  refine ⟨_, himage', fun heq => hne ?_⟩
  obtain ⟨rfl, hnames⟩ := List.append_inj' (Except.ok.inj (himage.symm.trans heq)) rfl
  obtain rfl : first = first' := List.append_cancel_right (List.head_eq_of_cons_eq hnames)
  simp only [hsame]

end Image

namespace Command.Asm

variable {flags : AsmFlags} {w : World} {stem : Bytes}

theorem target_append (hout : flags.out = []) (stem : Bytes) :
    target flags (stem ++ Source.extension) = Image.fileName stem := by
  have hext : Path.extension (stem ++ Source.extension) = Source.extension :=
    Path.extension_append (by decide) (by decide)
  rw [target, imageName, if_pos (List.isEmpty_iff.2 hout), hext, Bytes.dropEnding_append]

theorem stat_store_target (hout : flags.out = []) {stem' data : Bytes} {p p' : Place}
    (h : w.files.resolve (stem ++ Source.extension) = .ok p)
    (h' : w.files.resolve (stem' ++ Source.extension) = .ok p') (hne : p ≠ p')
    (hsame : Image.extension <:+ stem ↔ Image.extension <:+ stem') :
    (w.files.store (target flags (stem ++ Source.extension)) data).2.stat (target flags (stem' ++ Source.extension)) =
      w.files.stat (target flags (stem' ++ Source.extension)) := by
  rw [target_append hout, target_append hout]
  obtain ⟨q', himage', himage⟩ := Image.resolve_fileName_ne h h' hne hsame
  exact FileTree.stat_store_of_ne himage' himage

/-- Without a name, the image of a source goes to the path of the source with its extension replaced exactly if
what is left of the path without the extension is not named as an image; otherwise it goes to that path. Two sources
share a file just if one of them is so named after the other's image, and apart from such sources, assembling one
leaves the images of all others as they are. -/
theorem default_file_replaces_extension_iff (hout : flags.out = []) (hmode : WritesFile flags) {a : Assembled}
    (hassemble : ((assemble (stem ++ Source.extension)).run World.handle w).1 = .ok (.ok a)) :
    ∃ file result w', (run flags (stem ++ Source.extension)).run World.handle w = (.ok result, w') ∧
      w'.files = (w.files.store file a.image).2 ∧
      (result = .ok () ↔ (w.files.store file a.image).1 = .ok ()) ∧
      (file = stem ++ Image.extension ↔ ¬Image.extension <:+ stem) ∧
      (Image.extension <:+ stem → file = stem) ∧
      ∀ stem', (stem ≠ stem' → (file = target flags (stem' ++ Source.extension) ↔
          (stem = stem' ++ Image.extension ∧ ¬Image.extension <:+ stem') ∨
            (stem' = stem ++ Image.extension ∧ ¬Image.extension <:+ stem))) ∧
        ∀ p p', w.files.resolve (stem ++ Source.extension) = .ok p →
          w.files.resolve (stem' ++ Source.extension) = .ok p' → p ≠ p' →
          (Image.extension <:+ stem ↔ Image.extension <:+ stem') →
            w'.files.stat (target flags (stem' ++ Source.extension)) =
              w.files.stat (target flags (stem' ++ Source.extension)) := by
  have ha : w.files.assembled (stem ++ Source.extension) = .ok a := by
    rw [World.run_assemble] at hassemble
    exact Except.ok.inj hassemble
  obtain ⟨result, w', hrun, hend⟩ := exists_ending flags (stem ++ Source.extension) Table.draw w
  obtain ⟨hfiles, hresult⟩ := hend.files_eq_store ha (writesFile_iff.1 hmode)
  refine ⟨target flags (stem ++ Source.extension), result, w', hrun, hfiles, hresult, ?_, ?_, fun stem' => ⟨?_, ?_⟩⟩
  · rw [target_append hout]
    by_cases hstem : Image.extension <:+ stem
    · have hlonger : stem ≠ stem ++ Image.extension := by
        intro heq
        exact absurd (List.self_eq_append_right.1 heq) (by decide)
      simp [Image.fileName_of_suffix hstem, hstem, hlonger]
    · simp [Image.fileName_of_not_suffix hstem, hstem]
  · intro hstem
    rw [target_append hout, Image.fileName_of_suffix hstem]
  · intro hne
    rw [target_append hout, target_append hout, Image.fileName_eq_fileName_iff hne]
  · intro p p' hp hp' hne hsame
    rw [hfiles]
    exact stat_store_target hout hp hp' hne hsame

/-- A hidden source in a folder that is named as an image. -/
theorem default_file_replaces_extension_iff_hidden :
    let flags : AsmFlags := ⟨false, [], [], false⟩
    let w := World.ofFiles (FileTree.empty.install [text "d.c8x", text ".p.c8asm"] (.regular (text "cls\n")))
    ∃ w', (run flags (text "d.c8x/.p.c8asm")).run World.handle w = (.ok (.ok ()), w') ∧
      w'.files.contents (text "d.c8x/.p.c8x") = .ok [0x00, 0xE0] := by
  intro flags w
  let a : Assembled := ⟨text "d.c8x/.p.c8asm", ⟨[text "cls"], []⟩, [0x00, 0xE0]⟩
  have hassemble : ((assemble (text "d.c8x/.p" ++ Source.extension)).run World.handle w).1 = .ok (.ok a) := by rfl
  obtain ⟨file, result, w', hrun, hfiles, hresult, hfile, -, -⟩ :=
    default_file_replaces_extension_iff (rfl : flags.out = []) (.inl ⟨rfl, rfl⟩) hassemble
  obtain rfl : file = text "d.c8x/.p.c8x" := hfile.2 (by decide)
  obtain rfl : result = .ok () := hresult.2 (by rfl)
  refine ⟨w', hrun, ?_⟩
  rw [hfiles]
  rfl

/-- Of two sources one is named after the other's image, and assembling it overwrites that. -/
theorem image_overwritten_by_source_named_after_it :
    let flags : AsmFlags := ⟨false, [], [], false⟩
    let files := (FileTree.empty.install [text "p.c8asm"] (.regular (text "cls\n"))).install
      [text "p.c8x.c8asm"] (.regular (text "ret\n"))
    let w := ((run flags (text "p.c8asm")).run World.handle (World.ofFiles files)).2
    let w' := ((run flags (text "p.c8x.c8asm")).run World.handle w).2
    w.files.contents (text "p.c8x") = .ok [0x00, 0xE0] ∧ w'.files.contents (text "p.c8x") = .ok [0x00, 0xEE] ∧
      w'.files.stat (text "p.c8x.c8x") = .error .missing := by
  refine ⟨?_, ?_, ?_⟩ <;> rfl

end Command.Asm

end Chip8
