import HardwareTest.Config.Manager
import HardwareTest.Json.Grammar

/-!
# Reading a file: `utils/util.c` and the loaders

`read_file_to_string` keeps what `ftell` returns, a signed 64-bit number, in 32 bits, and adds 1 in
32 bits for the terminator.

* `FileBuffer`: what is stored, beside the number of bytes allocated for it.
* `Parser.loadFile`: a loader on the buffer, which `cJSON_Parse` reads up to its first 0.
* `EndsBeforeZero`: a byte 0 of the file, if there is one, takes no document away.
* `readsExactly_iff`: the buffer is the whole file, inside its block, and parsed completely iff the
  file is not longer than the 32-bit length, adding 1 does not wrap, and a document of the file ends
  before its first byte 0.
-/

namespace HardwareTest

open CJson

/-! ## The model -/

/-- The bytes allocated, and the bytes stored from the first one on. -/
structure FileBuffer where
  allocated : ℕ
  stored : List UInt8
deriving DecidableEq

/-- The number of bytes that are asked for: `uint32_t length = ftell(file);`.
Source: `utils/util.c`, `read_file_to_string` -/
def fileLength (ftell : Int64) : UInt32 := ftell.toUInt64.toUInt32

/-- The buffer, `none` for NULL. `file` is the content, `none` when `fopen` fails; `ftell` is what
`ftell` returns at its end, and `allocates` whether `malloc` does. `fread` ends at the length or at
the end of the file. Source: `utils/util.c`, `read_file_to_string` -/
def readFileToString (file : Option (List UInt8)) (ftell : Int64) (allocates : Bool) :
    Option FileBuffer :=
  match file with
  | none => none
  | some content =>
      let length := fileLength ftell
      if !allocates then none
      else
        let readBytes := content.take length.toNat
        some ⟨(length + 1).toNat, readBytes ++ [0]⟩

/-- The buffer read as a C string. -/
def FileBuffer.text (buffer : FileBuffer) : CString := buffer.stored.takeWhile (· ≠ 0)

/-- A loader on the buffer that was read: no buffer and no document are the same failure.
Source: `config/device.c`, `device_parser_load`; `config/function.c`, `function_parser_load`;
`config/test.c`, `test_parser_load`; `config/platform.c`, `platform_parser_load` -/
def Parser.loadFile (parser : Parser) (buffer : Option FileBuffer) (m : LocatedManager) :
    Option (ℤ × LocatedManager) :=
  match buffer with
  | none => parser.load none m
  | some buffer => parser.load (cJSONParse buffer.text).toOption m

/-- **An exact reading**: a buffer holds the whole file and the terminator, inside the block that
was allocated, and every loader loads what the parser makes of all bytes of the file. -/
structure ReadsExactly (file : Option (List UInt8)) (result : Option FileBuffer) : Prop where
  whole : ∀ buffer, result = some buffer → ∃ content, file = some content ∧
    buffer.stored = content ++ [0]
  inside : ∀ buffer, result = some buffer → buffer.stored.length ≤ buffer.allocated
  complete : ∀ buffer, result = some buffer → ∀ (parser : Parser) m,
    parser.loadFile result m =
      parser.load (file.bind fun content => (cJSONParse content).toOption) m

/-- A document that all bytes of a file make is made by those before the first 0 already: the file
has no 0, or its document ends before the first one, or it has no document. -/
def EndsBeforeZero (content : List UInt8) : Prop :=
  (cJSONParse content).toOption.isSome = true →
    (cJSONParse (content.takeWhile (· ≠ 0))).toOption.isSome = true

instance (content : List UInt8) : Decidable (EndsBeforeZero content) :=
  inferInstanceAs (Decidable (_ → _))

/-! ## Lengths and terminators -/

/-- Adding 1 for the terminator wraps at the largest length only. -/
lemma toNat_add_one (length : UInt32) :
    (length + 1).toNat = if length = 0xffffffff then 0 else length.toNat + 1 := by
  split_ifs with hlast
  · rw [hlast]
    rfl
  · have hlt := length.toNat_lt
    have hne : length.toNat ≠ 2 ^ 32 - 1 := fun heq => hlast (UInt32.toNat_inj.mp heq)
    rw [UInt32.toNat_add, UInt32.toNat_one, Nat.mod_eq_of_lt (by omega)]

/-- The buffer of a whole file is read up to the first 0 of the file. -/
lemma takeWhile_terminated (content : List UInt8) :
    (content ++ [0]).takeWhile (· ≠ 0) = content.takeWhile (· ≠ 0) := by
  rw [List.takeWhile_append]
  split_ifs with hall
  · rw [List.takeWhile_cons_of_neg (by simp), List.append_nil]
    exact ((List.takeWhile_prefix _).eq_of_length hall).symm
  · rfl

/-- What stands before the first 0 is all there is, or what the 0 follows. -/
lemma takeWhile_cases (content : List UInt8) :
    content = content.takeWhile (· ≠ 0) ∨
      ∃ more, content = content.takeWhile (· ≠ 0) ++ 0 :: more := by
  induction content with
  | nil => exact .inl rfl
  | cons b content ih =>
      by_cases hb : b = 0
      · subst hb
        exact .inr ⟨content, rfl⟩
      · rw [List.takeWhile_cons_of_pos (by simpa using hb)]
        refine ih.imp (congrArg (b :: ·)) ?_
        rintro ⟨more, heq⟩
        exact ⟨more, congrArg (b :: ·) heq⟩

/-- **The first 0 takes nothing away** from the parser iff a document ends before it. -/
lemma endsBeforeZero_iff (content : List UInt8) :
    EndsBeforeZero content ↔
      (cJSONParse (content.takeWhile (· ≠ 0))).toOption = (cJSONParse content).toOption := by
  constructor
  · intro hends
    rcases hparse : cJSONParse (content.takeWhile (· ≠ 0)) with e | item
    · rcases hwhole : (cJSONParse content).toOption with _ | item
      · rfl
      · have hsome := hends (by rw [hwhole]; rfl)
        rw [hparse] at hsome
        cases hsome
    · rcases takeWhile_cases content with heq | ⟨more, heq⟩
      · rw [← heq] at hparse
        rw [hparse]
      · rw [heq, cJSONParse_append hparse more]
  · intro heq hsome
    rwa [heq]

/-- Without a 0 the whole file is parsed. -/
lemma endsBeforeZero_of_notMem {content : List UInt8} (h : 0 ∉ content) :
    EndsBeforeZero content := by
  have hall : content.takeWhile (· ≠ 0) = content := List.takeWhile_eq_self_iff.mpr fun b hb =>
    decide_eq_true fun hzero => h (hzero ▸ hb)
  rw [endsBeforeZero_iff, hall]

/-- A document is not loaded like no document. -/
lemma isSome_of_loads {text : Option CJson} {root : CJson} {m : LocatedManager}
    (h : Parser.device.load text m = Parser.device.load (some root) m) : text.isSome = true := by
  have hcode : ∀ r ∈ Parser.device.load (some root) m, r.1 = 0 := by
    intro r hr
    simp only [Parser.load, deviceParserLoad, Option.map_map, Option.mem_def,
      Option.map_eq_some_iff] at hr
    obtain ⟨_, -, rfl⟩ := hr
    rfl
  rcases text with _ | _
  · rw [← h] at hcode
    have hzero : (-1 : ℤ) = 0 := hcode (-1, m) rfl
    exact absurd hzero (by decide)
  · rfl

/-! ## Exact readings -/

/-- **Files are read exactly** iff the file or the memory is not available, or the file is not
longer than the 32 bits of what `ftell` returned, these are not the largest 32-bit number, and the
document of the file, if it has one, ends before its first byte 0.
Source: `utils/util.c`, `read_file_to_string`; `config/device.c`, `config/function.c`,
`config/test.c`, `config/platform.c`; `third-party/cjson-1.7.19/cJSON.c`, `cJSON_Parse` -/
theorem readsExactly_iff (file : Option (List UInt8)) (ftell : Int64) (allocates : Bool) :
    ReadsExactly file (readFileToString file ftell allocates) ↔
      ∀ content, file = some content → allocates = true →
        content.length ≤ (fileLength ftell).toNat ∧ fileLength ftell ≠ 0xffffffff ∧
          EndsBeforeZero content := by
  constructor
  · rintro h content rfl rfl
    have hinside := h.inside _ rfl
    have hcomplete := h.complete _ rfl .device
    obtain ⟨_, hfile, hstored⟩ := h.whole _ rfl
    obtain rfl := Option.some.inj hfile
    have htake : content.take (fileLength ftell).toNat = content := List.append_cancel_right hstored
    have hlength := (List.take_eq_self_iff _).mp htake
    refine ⟨hlength, fun hlast => ?_, fun hsome => ?_⟩
    · -- nothing is allocated, and a byte is stored
      simp only [toNat_add_one, hlast, if_true, List.length_append,
        List.length_singleton] at hinside
      omega
    · obtain ⟨root, hroot⟩ := Option.isSome_iff_exists.mp hsome
      have hload := hcomplete ⟨.zeroed, .empty _⟩
      rw [Option.bind_some, hroot] at hload
      have htext := isSome_of_loads hload
      rwa [FileBuffer.text, hstored, takeWhile_terminated] at htext
  · intro h
    rcases file with _ | content
    · exact ⟨nofun, nofun, nofun⟩
    rcases allocates with _ | _
    · exact ⟨nofun, nofun, nofun⟩
    obtain ⟨hlength, hlast, hends⟩ := h content rfl rfl
    have hread : readFileToString (some content) ftell true =
        some ⟨(fileLength ftell).toNat + 1, content ++ [0]⟩ := by
      simp only [readFileToString, Bool.not_true, Bool.false_eq_true, if_false, toNat_add_one,
        if_neg hlast, List.take_of_length_le hlength]
    rw [hread]
    refine ⟨?_, ?_, ?_⟩
    · intro buffer hbuffer
      obtain rfl := Option.some.inj hbuffer
      exact ⟨content, rfl, rfl⟩
    · intro buffer hbuffer
      obtain rfl := Option.some.inj hbuffer
      rw [List.length_append, List.length_singleton]
      exact Nat.succ_le_succ hlength
    · intro buffer hbuffer parser m
      simp only [Parser.loadFile, FileBuffer.text, takeWhile_terminated,
        (endsBeforeZero_iff content).mp hends, Option.bind_some]

/-- A byte 0 behind the document takes nothing away. -/
example : EndsBeforeZero (cstr "{}" ++ [0]) := by decide

/-- A byte 0 that the parser passes as whitespace ends the text before the document does. -/
example : ¬ EndsBeforeZero (cstr "[" ++ 0 :: cstr "]") := by decide

/-- `ftell` fails: no byte is allocated, and the terminator alone takes one. -/
theorem ftellFails_not_exact :
    readFileToString (some []) (-1) true = some ⟨0, [0]⟩ ∧
      ¬ ReadsExactly (some []) (readFileToString (some []) (-1) true) := by
  refine ⟨by decide, fun h => ?_⟩
  exact absurd (h.inside ⟨0, [0]⟩ rfl) (by decide)

end HardwareTest
