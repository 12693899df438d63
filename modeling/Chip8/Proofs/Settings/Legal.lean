import Chip8.Proofs.Link.Refusal
import Chip8.Settings.Load
import Chip8.World
import Mathlib.Control.Monad.Basic

/-!
# Legal settings

Settings are judged field by field, and an upload judges its options again together with the image. The
two agree: settings that are loaded are legal, and under legal settings an image is refused just for its
length. So whatever else could be refused is told when the settings are read, before the line is opened. This does
not depend on the decoder, since what it gives is judged behind it.

What an upload does with its link shows in its calls, so a refusal is an upload that makes none.
-/

namespace Chip8

/-- A row of tests finds nothing just if no test does. -/
theorem ite_some_eq_none_iff {α : Type} {c : Prop} [Decidable c] {a : α} {o : Option α} :
    (if c then some a else o) = none ↔ ¬c ∧ o = none := by
  by_cases h : c <;> simp [h]

namespace Settings

structure Legal (s : Settings) : Prop where
  device : s.device ≠ []
  baud : 0 < s.baud
  resetDelay : 0 ≤ s.resetDelay
  responseDelay : 0 ≤ s.responseDelay
  retryDelay : 0 ≤ s.retryDelay
  syncTries : 1 ≤ s.syncTries
  chunkSize : 1 ≤ s.chunkSize ∧ s.chunkSize ≤ 255
  loadBase : s.loadBase.toNat % 2 = 0 ∧ s.loadBase.toNat < 0x1000

theorem fault?_eq_none_iff {s : Settings} : s.fault? = none ↔ s.Legal := by
  simp only [fault?, ite_some_eq_none_iff]
  simp only [memoryEnd, Protocol.maxPage, List.isEmpty_iff]
  constructor
  · rintro ⟨hdevice, hbaud, hdelays, htries, hchunk, hbase, -⟩
    exact ⟨hdevice, by omega, by omega, by omega, by omega, by omega, by omega, by omega⟩
  · rintro ⟨hdevice, hbaud, hreset, hresponse, hretry, htries, hchunk, hbase⟩
    exact ⟨hdevice, by omega, by omega, by omega, by omega, by omega, trivial⟩

theorem legal_default : Legal default := fault?_eq_none_iff.1 (by decide)

section

variable {decoder : Decoder} {σ : Type} {handle : Program.Handler System σ} {st st' : σ} {path : Bytes} {s : Settings}

/-- What comes of reading the settings file, if that gave this answer. -/
def ofAnswer (decoder : Decoder) (path : Bytes) :
    Except FileError Bytes → Except Crash (Settings × Option (SettingsError decoder.Error))
  | .ok document => ofDocument decoder (fileOf path) document
  | .error e => .ok (default, if path.isEmpty ∧ e.cause = .missing then none else some (.file e))

/-- Loading reads one file, and what comes of it is settled then. -/
theorem load_eq (decoder : Decoder) (path : Bytes) : load path decoder = .call (.read (fileOf path)) fun answer =>
    match ofAnswer decoder path answer with
    | .ok result => .done result
    | .error c => .halt c := by
  show Program.call _ _ = _
  congr 1
  funext answer
  cases answer with
  | ok document => rfl
  | error e =>
    show (if path.isEmpty ∧ e.cause = .missing then _ else _) = Program.done (default, if _ then _ else _)
    split <;> rfl

theorem run_load {answer : Except FileError Bytes} (hread : handle (.read (fileOf path)) st = (.ok answer, st')) :
    (load path decoder).run handle st = (ofAnswer decoder path answer, st') := by
  rw [load_eq, Program.run, hread]
  cases h : ofAnswer decoder path answer <;> simp only [h, Program.run]

theorem ofDocument_eq {document : Bytes} (file : Bytes) (hdecode : decoder.decode default document = .ok (s, none)) :
    ofDocument decoder file document = .ok (s, s.fault?.map .fault) := by
  unfold ofDocument
  rw [hdecode]

theorem legal_of_ofDocument {file document : Bytes} (h : ofDocument decoder file document = .ok (s, none)) :
    s.Legal := by
  unfold ofDocument at h
  split at h
  · cases h
  · cases h
  · obtain ⟨rfl, hfault⟩ := Prod.mk.inj (Except.ok.inj h)
    exact fault?_eq_none_iff.1 (Option.map_eq_none_iff.1 hfault)

theorem legal_of_ofAnswer {answer : Except FileError Bytes} (h : ofAnswer decoder path answer = .ok (s, none)) :
    s.Legal := by
  cases answer with
  | ok document => exact legal_of_ofDocument h
  | error e =>
    obtain ⟨rfl, -⟩ := Prod.mk.inj (Except.ok.inj h)
    exact legal_default

theorem legal_of_load (h : (load path decoder).run handle st = (.ok (s, none), st')) : s.Legal := by
  cases hread : handle (.read (fileOf path)) st with
  | mk result st₁ =>
    cases result with
    | error c =>
      rw [load_eq, Program.run, hread] at h
      cases h
    | ok answer =>
      rw [run_load hread] at h
      exact legal_of_ofAnswer (Prod.mk.inj h).1

end

/-! ### The session under legal settings -/

theorem Legal.not_accepted_iff {s : Settings} (h : s.Legal) (run debug : Bool) (image : Bytes) :
    ¬Session.Accepted (s.sessionOptions run debug) image ↔ image = [] ∨ image.length > 0x1000 - s.loadBase.toNat := by
  rw [Session.not_accepted_iff]
  have hchunk := h.chunkSize
  have hbase := h.loadBase
  simp only [sessionOptions]
  refine or_congr_right ?_
  omega

theorem Legal.syncLimit_eq {s : Settings} (h : s.Legal) (run debug : Bool) :
    (Session.syncLimit (s.sessionOptions run debug) : Int) = s.syncTries := by
  have htries := h.syncTries
  simp only [Session.syncLimit, sessionOptions]
  omega

/-- Settings and uploads agree on what is legal. An upload leaves its link alone just if its image is empty or
does not fit, or its page size is out of range, and it then ends with an error. Settings without a fault are
those whose fields are in range, and loaded settings are such, whatever the decoder made of their file. Under them
an upload is refused just for the length of its image, and any other tries to synchronize at least once and at most
as often as they say. -/
theorem settings_agree_with_uploads :
    (∀ opts image calls r, Talks (Session.upload opts image) calls r →
        (calls = [] ↔ image = [] ∨ opts.loadBase.toNat + image.length > 0x1000 ∨
          opts.chunkSize < 1 ∨ opts.chunkSize > 255) ∧ (calls = [] → ∃ e, r = .ok (.error e))) ∧
      (∀ s : Settings, s.fault? = none ↔ s.Legal) ∧
      (∀ (decoder : Decoder) (σ : Type) (handle : Program.Handler System σ) (st st' : σ) (path : Bytes) (s : Settings),
        (load path decoder).run handle st = (.ok (s, none), st') → s.Legal) ∧
      ∀ s : Settings, s.Legal → ∀ run debug image calls r,
        Talks (Session.upload (s.sessionOptions run debug) image) calls r →
          (calls = [] ↔ image = [] ∨ image.length > 0x1000 - s.loadBase.toNat) ∧
          (calls ≠ [] → 1 ≤ Session.syncAttempts calls ∧ (Session.syncAttempts calls : Int) ≤ s.syncTries) := by
  refine ⟨fun opts image calls r htalks => ⟨?_, fun hcalls => ?_⟩, fun _ => fault?_eq_none_iff,
    fun _ _ _ _ _ _ _ => legal_of_load, fun s hlegal run debug image calls r htalks => ⟨?_, fun hcalls => ?_⟩⟩
  · rw [Session.calls_eq_nil_iff htalks, Session.not_accepted_iff]
  · exact Session.exists_error_of_refused ((Session.calls_eq_nil_iff htalks).1 hcalls) htalks
  · rw [Session.calls_eq_nil_iff htalks, hlegal.not_accepted_iff]
  · have haccepted : Session.Accepted (s.sessionOptions run debug) image :=
      Classical.byContradiction fun hrefused => hcalls ((Session.calls_eq_nil_iff htalks).2 hrefused)
    have hbounds := Session.syncAttempts_bounds (Session.refusal?_eq_none_iff.2 haccepted) htalks
    have hlimit := hlegal.syncLimit_eq run debug
    omega

/-- Pages of one byte up to the very end of the memory, the first of them the byte of the synchronizing
command, where the first attempt to synchronize goes unanswered. -/
theorem settings_agree_with_uploads_last_bytes :
    let document := text "chunk_size: 1\nload_base: 0xffe\nsync_tries: 2\n"
    let w := World.ofFiles
      ⟨[([text "work"], .directory), ([text "work", text "slip8.yaml"], .regular document)], [text "work"]⟩
    let s : Settings := { default with chunkSize := 1, loadBase := 0xFFE, syncTries := 2 }
    let opts := s.sessionOptions false false
    let link : ScriptedLink :=
      ⟨[.error (.noResponse 5), .ok 0x0F, .ok 0x0F, .ok 0x0E, .ok 1, .ok 0x0D, .ok 0x0C, .ok 0x0D, .ok 0x0C], [], [], []⟩
    (load []).run World.handle w = (.ok (s, none), w) ∧ s.Legal ∧
      ((Session.upload opts [0xF0, 0xE0]).run ScriptedLink.handle link).1 = .ok (.ok ()) ∧
      (∃ calls, Talks (Session.upload opts [0xF0, 0xE0]) calls (.ok (.ok ())) ∧ calls ≠ [] ∧
        1 ≤ Session.syncAttempts calls ∧ (Session.syncAttempts calls : Int) ≤ 2) ∧
      ∀ calls r, Talks (Session.upload opts [0xF0, 0xE0, 0x00]) calls r → calls = [] := by
  intro document w s opts link
  have hdecode : yaml.decode default document = .ok (s, none) := by decide +kernel
  have hfault : s.fault? = none := by decide
  have hread : World.handle (.read (fileOf [])) w = (.ok (.ok document), w) := by rfl
  have hload : (load []).run World.handle w = (.ok (s, none), w) := by
    rw [run_load hread, ofAnswer, ofDocument_eq _ hdecode, hfault]
    rfl
  have hrun : ((Session.upload opts [0xF0, 0xE0]).run ScriptedLink.handle link).1 = .ok (.ok ()) := by rfl
  obtain ⟨-, -, hlegal, hagree⟩ := settings_agree_with_uploads
  have hs : s.Legal := hlegal yaml _ _ _ _ _ _ hload
  obtain ⟨calls, htalks⟩ := talks_run Session.ScriptedLink.answers (Session.upload opts [0xF0, 0xE0]) link
  rw [hrun] at htalks
  have hupload := hagree s hs false false [0xF0, 0xE0] calls _ htalks
  have hcalls : calls ≠ [] := fun hnil => absurd (hupload.1.1 hnil) (by decide)
  exact ⟨hload, hs, hrun, ⟨calls, htalks, hcalls, hupload.2 hcalls⟩, fun calls r htalks =>
    (hagree s hs false false [0xF0, 0xE0, 0x00] calls r htalks).1.2 (by decide)⟩

end Settings

end Chip8
