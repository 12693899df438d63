import Chip8.Command.Asm
import Chip8.Command.Dump
import Chip8.Proofs.Assembly.LineByLine
import Chip8.Proofs.Command.Assembling
import Chip8.Proofs.Files.Storing

/-!
# Images through a file

An image can be printed while it is assembled, or it can be written to a file and printed from there. Both
print the same. The way through the file has three places to go wrong: the name under which the image is
looked for, the bytes that are found, and the test for an even length, which an image always passes since
every line gives two bytes.
-/

namespace Chip8

open Program

variable {w : World} {t : FileTree} {path : Bytes} {a : Assembled} {draw : Table.Renderer}

theorem length_of_build {lines : List Bytes} {image : Bytes} (h : build lines = .ok image) :
    image.length = 2 * lines.length := by
  obtain ⟨-, ops, hops, rfl⟩ := build_eq_ok_iff.1 h
  rw [length_flatMap_bytes, List.Forall₂.length_eq hops]

theorem exists_render_of_build {lines : List Bytes} {image : Bytes} (h : build lines = .ok image)
    (draw : Table.Renderer) : ∃ listed, Listing.render lines image draw = .ok listed := by
  have hlength : 2 * lines.length = image.length := (length_of_build h).symm
  exact ⟨_, by rw [Listing.render, Listing.rows, if_pos hlength]⟩

theorem Image.exists_fileName_eq (name : Bytes) : ∃ stem, fileName name = stem ++ extension := by
  unfold fileName
  split
  · next h =>
    obtain ⟨stem, hstem⟩ := List.isSuffixOf_iff_suffix.1 h
    exact ⟨stem, hstem.symm⟩
  · exact ⟨name, rfl⟩

theorem Image.extension_fileName (name : Bytes) : Path.extension (fileName name) = extension := by
  obtain ⟨stem, hstem⟩ := exists_fileName_eq name
  rw [hstem]
  exact Path.extension_append (by decide) (by decide)

/-- An image is never written over a source, so the source gives what it gave. -/
theorem FileTree.assembled_store (ha : t.assembled path = .ok a) (name data : Bytes) :
    (t.store (Image.fileName name) data).2.assembled path = .ok a := by
  obtain ⟨hfile, hext, -⟩ := loaded_eq_ok (assembled_eq_ok ha).1
  obtain ⟨node, hstat, -⟩ := isFile_iff.1 hfile
  obtain ⟨place, hplace⟩ := exists_resolve_of_stat hstat
  have hother : t.resolve (Image.fileName name) ≠ .ok place := by
    apply resolve_ne_of_extension_ne _ _ _ hplace
    · rw [hext]
      decide
    · rw [Image.extension_fileName]
      decide
    · rw [Image.extension_fileName, hext]
      decide
  have hsame : (t.store (Image.fileName name) data).2.stat path = t.stat path :=
    stat_store_of_ne hplace hother
  rw [← ha]
  unfold assembled
  rw [loaded_congr hsame]

namespace Command

namespace Asm

variable {flags : AsmFlags} {mode : Mode}

theorem run_warnUnterminated (w : World) (path rest : Bytes) :
    ∃ err, (warnUnterminated path rest).run World.handle w = (.ok (), { w with err }) := by
  unfold warnUnterminated
  split
  · exact ⟨w.err, rfl⟩
  · exact ⟨_, rfl⟩

/-- What was built is listed with one request, and that is no failure whatever comes of it. -/
theorem printListing_eq (h : build a.source.lines = .ok a.image) (draw : Table.Renderer) :
    ∃ listed, printListing draw a = .call (.print listed) fun _ => .done (.ok ()) := by
  obtain ⟨listed, hlisted⟩ := exists_render_of_build h draw
  refine ⟨listed, ?_⟩
  rw [printListing, hlisted]
  rfl

theorem ne_of_render {image shown : Bytes} (h : Image.render mode image = .ok shown) :
    mode ≠ .binary ∧ mode ≠ .listing := by
  constructor <;> rintro rfl <;> cases h

theorem writeImage_of_render {shown : Bytes} (h : Image.render mode a.image = .ok shown) (draw : Table.Renderer)
    (flags : AsmFlags) : writeImage draw flags mode a =
      .call (.print shown) fun answer => .done (answer.mapError fun e => .plain e.message) := by
  obtain ⟨hbinary, hlisting⟩ := ne_of_render h
  rw [writeImage, if_neg hbinary, if_neg hlisting, printImage, h]
  rfl

theorem run_writeFile
    (hstore : (w.files.store (Image.fileName (imageName flags a.path)) a.image).1 = .ok ()) : ∃ err,
    (writeFile flags a).run World.handle w = (.ok (.ok ()),
      { w with files := (w.files.store (Image.fileName (imageName flags a.path)) a.image).2, err }) := by
  have himage : (Image.store (imageName flags a.path) a.image).run World.handle w =
      (.ok (.ok (Image.fileName (imageName flags a.path))),
        { w with files := (w.files.store (Image.fileName (imageName flags a.path)) a.image).2 }) := by
    unfold Image.store
    rw [run_bind_of_ok (World.run_store w _ _), hstore]
    rfl
  unfold writeFile log
  rw [run_bind_of_ok himage]
  exact ⟨_, rfl⟩

theorem run_write (hbuild : build a.source.lines = .ok a.image) {w' : World}
    (himage : (writeImage draw flags mode a).run World.handle w = (.ok (.ok ()), w')) :
    ∃ listed, (flags.list = false → listed = []) ∧
      (write draw flags mode a).run World.handle w = (.ok (.ok ()), { w' with out := w'.out ++ listed }) := by
  obtain ⟨listed, hlisted⟩ := printListing_eq hbuild draw
  unfold write
  rw [run_bind_of_ok himage]
  by_cases hlist : flags.list ∧ mode ≠ .listing
  · refine ⟨listed, by simp [hlist.1], ?_⟩
    simp only [if_pos hlist, hlisted]
    rfl
  · refine ⟨[], fun _ => rfl, ?_⟩
    simp only [if_neg hlist, List.append_nil]
    rfl

theorem exists_run_eq (draw : Table.Renderer) (ha : w.files.assembled path = .ok a)
    (hmode : chosenMode flags = .ok mode) : ∃ err, (run flags path draw).run World.handle w =
      (write draw flags mode a >>= report).run World.handle { w with err } := by
  have hassemble : (assemble path).run World.handle w = (.ok (.ok a), w) := by rw [World.run_assemble, ha]
  obtain ⟨err, hwarn⟩ := run_warnUnterminated w path a.source.rest
  exact ⟨err, run_of_assembled hassemble hwarn hmode draw⟩

/-- An assembly writes its image, with a warning before it and a listing behind it at most. -/
theorem run_of_writeImage (ha : w.files.assembled path = .ok a) (hmode : chosenMode flags = .ok mode) {files : FileTree}
    {out : Bytes} (himage : ∀ err, ∃ err', (writeImage draw flags mode a).run World.handle { w with err } =
      (.ok (.ok ()), { w with files, out, err := err' })) :
    ∃ listed err, (flags.list = false → listed = []) ∧
      (run flags path draw).run World.handle w = (.ok (.ok ()), { w with files, out := out ++ listed, err }) := by
  obtain ⟨-, -, hbuild⟩ := FileTree.assembled_eq_ok ha
  obtain ⟨err, hrun⟩ := exists_run_eq draw ha hmode
  obtain ⟨err', himage⟩ := himage err
  obtain ⟨listed, hlisted, hwrite⟩ := run_write hbuild himage
  refine ⟨listed, err', hlisted, ?_⟩
  rw [hrun, run_bind_of_ok hwrite]
  rfl

theorem run_of_store (ha : w.files.assembled path = .ok a) (hmode : chosenMode flags = .ok .binary)
    (hstore : (w.files.store (Image.fileName (imageName flags path)) a.image).1 = .ok ()) : ∃ listed err,
    (run flags path draw).run World.handle w = (.ok (.ok ()),
      { w with
        files := (w.files.store (Image.fileName (imageName flags path)) a.image).2
        out := w.out ++ listed
        err }) := by
  obtain ⟨-, rfl, -⟩ := FileTree.assembled_eq_ok ha
  have himage : ∀ err, ∃ err', (writeImage draw flags .binary a).run World.handle { w with err } = (.ok (.ok ()),
      { w with files := (w.files.store (Image.fileName (imageName flags a.path)) a.image).2, err := err' }) := by
    intro err
    exact run_writeFile (w := { w with err }) hstore
  obtain ⟨listed, err, -, hrun⟩ := run_of_writeImage ha hmode himage
  exact ⟨listed, err, hrun⟩

theorem run_binary (ha : w.files.assembled path = .ok a) (hmode : chosenMode flags = .ok .binary)
    (hfile : w.files.Writable (Image.fileName (imageName flags path))) : ∃ out err,
    (run flags path draw).run World.handle w = (.ok (.ok ()),
      { w with files := (w.files.store (Image.fileName (imageName flags path)) a.image).2, out, err }) := by
  obtain ⟨_, -, -, hstore⟩ := FileTree.store_of_writable hfile a.image
  obtain ⟨listed, err, hrun⟩ := run_of_store ha hmode (congrArg Prod.fst hstore)
  exact ⟨_, err, hrun⟩

theorem run_console {t : Bytes} (ha : w.files.assembled path = .ok a) (hmode : chosenMode flags = .ok mode)
    (hlist : flags.list = false) (hrender : Image.render mode a.image = .ok t) : ∃ err,
    (run flags path draw).run World.handle w = (.ok (.ok ()), { w with out := w.out ++ t, err }) := by
  have himage : ∀ err, ∃ err', (writeImage draw flags mode a).run World.handle { w with err } =
      (.ok (.ok ()), { w with out := w.out ++ t, err := err' }) := by
    intro err
    rw [writeImage_of_render hrender]
    exact ⟨err, rfl⟩
  obtain ⟨listed, err, hlisted, hrun⟩ := run_of_writeImage ha hmode himage
  rw [hlisted hlist, List.append_nil] at hrun
  exact ⟨err, hrun⟩

end Asm

theorem Dump.run_of_contents {image t modeName : Bytes} {mode : Mode} (hmode : Mode.ofName modeName = .ok mode)
    (hcontents : w.files.contents path = .ok image) (heven : image.length % 2 = 0)
    (hrender : Image.render mode image = .ok t) :
    (Dump.run modeName path).run World.handle w = (.ok (.ok ()), { w with out := w.out ++ t }) := by
  have hread : (readImage path).run World.handle w = (.ok (.ok image), w) := by
    unfold readImage
    rw [run_bind_of_ok (World.run_read w path), hcontents]
    simp only [heven]
    rfl
  unfold Dump.run
  rw [hmode]
  show Program.run World.handle (readImage path >>= _) w = _
  rw [run_bind_of_ok hread]
  simp only [hrender]
  rfl

/-- An image that is written to a file and dumped from there shows as it does when it is printed at once,
before or after, and the file holds what building the source's lines gives. -/
theorem dump_prints_what_assembling_prints {binary console : AsmFlags} {mode : Mode}
    (hassemble : ((assemble path).run World.handle w).1 = .ok (.ok a))
    (hbinary : Asm.chosenMode binary = .ok .binary)
    (hfile : w.files.Writable (Image.fileName (Asm.imageName binary path)))
    (hmode : mode = .hex ∨ mode = .stdout) (hconsole : Asm.chosenMode console = .ok mode)
    (hlist : console.list = false) :
    let file := Image.fileName (Asm.imageName binary path)
    ∃ (w' : World) (shown : Bytes),
      (Asm.run binary path).run World.handle w = (.ok (.ok ()), w') ∧
      (∃ data, w.files.contents path = .ok data ∧ build (Source.ofText data).lines = .ok a.image) ∧
      w'.files.contents file = .ok a.image ∧ Image.render mode a.image = .ok shown ∧
      (Dump.run mode.name file).run World.handle w' = (.ok (.ok ()), { w' with out := w'.out ++ shown }) ∧
      ∀ u ∈ [w, w'], ∃ err, (Asm.run console path).run World.handle u =
        (.ok (.ok ()), { u with out := u.out ++ shown, err }) := by
  intro file
  have ha : w.files.assembled path = .ok a := by
    rw [World.run_assemble] at hassemble
    exact Except.ok.inj hassemble
  obtain ⟨hload, -, hbuild⟩ := FileTree.assembled_eq_ok ha
  obtain ⟨-, -, data, hdata, hsource⟩ := FileTree.loaded_eq_ok hload
  obtain ⟨out, err, hrun⟩ := Asm.run_binary ha hbinary hfile
  obtain ⟨shown, hrender⟩ : ∃ shown, Image.render mode a.image = .ok shown := by
    rcases hmode with rfl | rfl
    · exact ⟨_, rfl⟩
    · exact ⟨_, rfl⟩
  have hname : Mode.ofName mode.name = .ok mode := by
    rcases hmode with rfl | rfl <;> decide
  have heven : a.image.length % 2 = 0 := by
    rw [length_of_build hbuild]
    omega
  have hwritten : (w.files.store file a.image).2.contents file = .ok a.image := FileTree.contents_store hfile a.image
  refine ⟨_, shown, hrun, ⟨data, hdata, hsource ▸ hbuild⟩, hwritten, hrender, ?_, ?_⟩
  · exact Dump.run_of_contents hname hwritten heven hrender
  · intro u hu
    have hu : u.files.assembled path = .ok a := by
      rcases List.mem_pair.1 hu with rfl | rfl
      · exact ha
      · exact FileTree.assembled_store ha _ a.image
    exact Asm.run_console hu hconsole hlist hrender

/-- Over an older image, with a listing wanted as well and with text behind the last newline. -/
theorem dump_prints_what_assembling_prints_over_older :
    let files := (FileTree.empty.install [text "p.c8asm"] (.regular (text "cls\r\nadd V1, V2\nret"))).install
      [text "o.c8x"] (.regular (text "older"))
    let w := World.ofFiles files
    let shown := text "ADDR   DATA\n0x0200 00 E0 81 24\n"
    ∃ w' err, (Asm.run ⟨false, text "./o", [], true⟩ (text "p.c8asm")).run World.handle w = (.ok (.ok ()), w') ∧
      w'.files.contents (text "./o.c8x") = .ok [0x00, 0xE0, 0x81, 0x24] ∧
      (Dump.run (text "hex") (text "./o.c8x")).run World.handle w' =
        (.ok (.ok ()), { w' with out := w'.out ++ shown }) ∧
      (Asm.run ⟨false, [], text "hex", false⟩ (text "p.c8asm")).run World.handle w =
        (.ok (.ok ()), { w with out := shown, err }) := by
  intro files w shown
  let a : Assembled := ⟨text "p.c8asm", ⟨[text "cls", text "add V1, V2"], text "ret"⟩, [0x00, 0xE0, 0x81, 0x24]⟩
  have hfile : files.Writable (text "./o.c8x") :=
    ⟨[text "work", text "o.c8x"], by rfl, .inr ⟨text "older", by rfl⟩⟩
  have hassemble : ((assemble (text "p.c8asm")).run World.handle w).1 = .ok (.ok a) := by rfl
  have hbinary : Asm.chosenMode ⟨false, text "./o", [], true⟩ = .ok .binary := by rfl
  have hhex : Asm.chosenMode ⟨false, [], text "hex", false⟩ = .ok .hex := by rfl
  obtain ⟨w', shown', hrun, -, hcontents, hrender, hdump, hconsole⟩ :=
    dump_prints_what_assembling_prints hassemble hbinary hfile (.inl rfl) hhex rfl
  obtain rfl : shown = shown' := by
    have hshown : Image.render .hex a.image = .ok shown := by decide +kernel
    exact Except.ok.inj (hshown.symm.trans hrender)
  obtain ⟨err, hbefore⟩ := hconsole w (by simp)
  exact ⟨w', err, hrun, hcontents, hdump, hbefore⟩

end Command

end Chip8
