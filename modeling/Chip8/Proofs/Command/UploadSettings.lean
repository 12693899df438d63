import Chip8.Command.Upload
import Chip8.Proofs.Settings.Layers
import Chip8.Proofs.Settings.Legal

/-!
# The settings of an upload

An upload works with three layers of settings: the defaults, what the settings file says, and the flags that
were given. It goes on with exactly the settings that these come to (`run_of_gives`). But it judges twice,
once beneath the flags and once with them, and a fault that it finds beneath ends it before the flags are
looked at. So a flag cannot mend the value that it replaces. Of the decoder of the file nothing is used but that
the documents it has no error for are layers.
-/

namespace Chip8

namespace Settings

/-- Reading the settings file gave something to go by: a document without errors, or no file where none was
named. -/
def Usable (decoder : Decoder) (config : Bytes) : Except FileError Bytes → Prop
  | .ok document => ∃ s, decoder.decode default document = .ok (s, none)
  | .error e => config = [] ∧ e.cause = .missing

/-- The layer of what was read: what the document says over any settings, or nothing. -/
def Gives (decoder : Decoder) (file : Layer) : Except FileError Bytes → Prop
  | .ok document => ∀ s, decoder.decode s document = .ok (file.onto s, none)
  | .error _ => file = .empty

variable {decoder : Decoder} {config : Bytes} {answer : Except FileError Bytes} {file : Layer}

theorem Usable.exists_gives (hlayered : decoder.Layered) (h : Usable decoder config answer) :
    ∃ file, Gives decoder file answer := by
  cases answer with
  | ok document =>
    obtain ⟨s, hs⟩ := h
    exact hlayered document default s hs
  | error e => exact ⟨.empty, rfl⟩

/-- What is loaded are the settings beneath the flags, with the fault that is found in them. -/
theorem Gives.ofAnswer_eq (hfile : Gives decoder file answer) (husable : Usable decoder config answer) :
    ofAnswer decoder config answer =
      .ok (file.onto Settings.default, (file.onto Settings.default).fault?.map .fault) := by
  cases answer with
  | ok document => exact ofDocument_eq _ (hfile Settings.default)
  | error e =>
    obtain ⟨rfl, hmissing⟩ := husable
    obtain rfl : file = .empty := hfile
    have hlegal : (default : Settings).fault? = none := fault?_eq_none_iff.2 legal_default
    rw [Layer.empty_onto, hlegal, ofAnswer, if_pos ⟨rfl, hmissing⟩]
    rfl

theorem Gives.onto_default {document : Bytes} {s : Settings} (hfile : Gives decoder file (.ok document))
    (hdecode : decoder.decode default document = .ok (s, none)) : file.onto Settings.default = s := by
  rw [hfile Settings.default] at hdecode
  exact (Prod.mk.inj (Except.ok.inj hdecode)).1

end Settings

namespace Command

open Settings

def UploadFlags.layer (flags : UploadFlags) : Layer := { Layer.empty with device := flags.device, baud := flags.baud }

namespace Upload

variable (flags : UploadFlags) (path : Bytes)

theorem overlaid_eq_onto (s : Settings) : overlaid flags s = flags.layer.onto s := rfl

/-- How an upload goes on from the settings beneath its flags. -/
def proceed (beneath : Settings) : Program System (Except ErrorChain Unit) :=
  match beneath.fault?.or (flags.layer.onto beneath).fault? with
  | some fault => .done (.error (.plain fault.message))
  | none => send flags (flags.layer.onto beneath) path

variable {flags} in
/-- The first call of an upload reads the settings file, and behind a usable answer it goes on from the
settings that the file makes of the defaults. -/
theorem run_of_gives {decoder : Decoder} {answer : Except FileError Bytes} {file : Layer}
    (hfile : Gives decoder file answer) (husable : Usable decoder flags.config answer) :
    ∃ next, run flags path decoder = .call (.read (fileOf flags.config)) next ∧
      next answer = proceed flags path (file.onto Settings.default) := by
  have hloaded := hfile.ofAnswer_eq husable
  refine ⟨_, by rw [run, load_eq, Program.call_bind], ?_⟩
  simp only [hloaded, Program.done_bind, overlaid_eq_onto, proceed]
  generalize file.onto Settings.default = beneath
  cases beneath.fault? with
  | some fault => rfl
  | none =>
    simp only [Option.map_none, Option.none_or]
    cases (flags.layer.onto beneath).fault? <;> rfl

/-- Sending begins with a call, so it is never a refusal. -/
theorem send_ne_done (s : Settings) (result : Except ErrorChain Unit) : send flags s path ≠ .done result :=
  nofun

theorem proceed_eq_send_iff (beneath : Settings) :
    proceed flags path beneath = send flags (flags.layer.onto beneath) path ↔
      beneath.Legal ∧ (flags.layer.onto beneath).Legal := by
  rw [← fault?_eq_none_iff, ← fault?_eq_none_iff, ← Option.or_eq_none_iff]
  unfold proceed
  cases hfault : beneath.fault?.or (flags.layer.onto beneath).fault? with
  | none => simp
  | some fault =>
    refine iff_of_false (fun h => ?_) (by simp)
    exact send_ne_done flags path _ _ h.symm

theorem proceed_of_fault {beneath : Settings} {fault : SettingsFault}
    (h : beneath.fault?.or (flags.layer.onto beneath).fault? = some fault) :
    proceed flags path beneath = .done (.error (.plain fault.message)) := by
  unfold proceed
  rw [h]

/-- Whatever decoder reads the settings file, as long as a document without errors is a layer to it: an upload
whose settings file is usable goes on just if the settings are legal both beneath the flags and with them, and then
with exactly the settings that defaults, file and flags come to. Otherwise it makes no call behind the reading of the
file, and tells the first fault found beneath the flags, or else with them. -/
theorem settings_judged_beneath_and_with_flags {decoder : Decoder} (hlayered : decoder.Layered)
    {answer : Except FileError Bytes} (husable : Usable decoder flags.config answer) :
    ∃ (file : Layer) (next : Except FileError Bytes → Program System (Except ErrorChain Unit)),
      Gives decoder file answer ∧ run flags path decoder = .call (.read (fileOf flags.config)) next ∧
        let beneath := file.onto Settings.default
        let effective := flags.layer.onto beneath
        (next answer = send flags effective path ↔ beneath.Legal ∧ effective.Legal) ∧
          ∀ fault, beneath.fault?.or effective.fault? = some fault →
            next answer = .done (.error (.plain fault.message)) := by
  obtain ⟨file, hfile⟩ := husable.exists_gives hlayered
  obtain ⟨next, hrun, hnext⟩ := run_of_gives path hfile husable
  refine ⟨file, next, hfile, hrun, ?_, fun fault hfault => ?_⟩
  · rw [hnext, proceed_eq_send_iff]
  · rw [hnext, proceed_of_fault flags path hfault]

/-- A file that sets the speed and the load base, and a flag that names the device. -/
theorem settings_judged_beneath_and_with_flags_device :
    let flags : UploadFlags := ⟨[], some (text "tty0"), none, false, false⟩
    let document := text "baud: 9600\nload_base: 0x600\n"
    yaml.Layered ∧ Usable yaml flags.config (.ok document) ∧ ∃ next,
      run flags (text "p.c8x") = .call (.read (text "slip8.yaml")) next ∧
      next (.ok document) = send flags { Settings.default with device := text "tty0", baud := 9600, loadBase := 0x600 }
        (text "p.c8x") := by
  intro flags document
  let s : Settings := { Settings.default with baud := 9600, loadBase := 0x600 }
  have hdecode : yaml.decode default document = .ok (s, none) := by decide +kernel
  have husable : Usable yaml flags.config (.ok document) := ⟨s, hdecode⟩
  obtain ⟨file, next, hfile, hrun, hnext, -⟩ :=
    settings_judged_beneath_and_with_flags flags (text "p.c8x") layered_yaml husable
  simp only [hfile.onto_default hdecode] at hnext
  have hbeneath : s.Legal := fault?_eq_none_iff.1 (by decide)
  have heffective : (flags.layer.onto s).Legal := fault?_eq_none_iff.1 (by decide)
  exact ⟨layered_yaml, husable, next, hrun, hnext.2 ⟨hbeneath, heffective⟩⟩

/-- A file without a device is refused although a flag names one. The settings that file and flag come to are
legal, and with them the image can be sent. -/
theorem mended_file_is_refused :
    let flags : UploadFlags := ⟨[], some (text "tty0"), none, false, false⟩
    let document := text "device: \"\"\nreset_delay: 0s\n"
    let beneath : Settings := { Settings.default with device := [], resetDelay := 0 }
    let w : World :=
      ⟨⟨[([text "work"], .directory), ([text "work", text "slip8.yaml"], .regular document),
          ([text "work", text "p.c8x"], .regular [0x00, 0xE0]), ([text "work", text "tty0"], .serialLine)], [text "work"]⟩,
        [0x0F, 0x0E, 0x01, 0x0D, 0x0C], [], []⟩
    yaml.decode default document = .ok (beneath, none) ∧ (flags.layer.onto beneath).Legal ∧
      (run flags (text "p.c8x")).run World.handle w = (.ok (.error (.plain (text "config: no serial device"))), w) ∧
      ((send flags (flags.layer.onto beneath) (text "p.c8x")).run World.handle w).1 = .ok (.ok ()) := by
  intro flags document beneath w
  have hdecode : yaml.decode default document = .ok (beneath, none) := by decide +kernel
  have husable : Usable yaml flags.config (.ok document) := ⟨beneath, hdecode⟩
  obtain ⟨file, hfile⟩ := husable.exists_gives layered_yaml
  obtain ⟨next, hrun, hnext⟩ := run_of_gives (text "p.c8x") hfile husable
  have hfault : beneath.fault?.or (flags.layer.onto beneath).fault? = some .noDevice := by decide
  have hread : World.handle (.read (fileOf flags.config)) w = (.ok (.ok document), w) := by rfl
  refine ⟨hdecode, fault?_eq_none_iff.1 (by decide), ?_, by rfl⟩
  rw [hrun, Program.run, hread]
  simp only [hnext, hfile.onto_default hdecode, proceed_of_fault flags _ hfault]
  rfl

end Upload

end Command

end Chip8
