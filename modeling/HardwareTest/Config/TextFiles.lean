import HardwareTest.Config.FileReading
import HardwareTest.Config.ReloadManager
import HardwareTest.Json.Print

/-!
# Loading a directory of JSON texts

* `fileDocument`: what a path leads to, from the bytes of the files: `read_file_to_string` and then
  `cJSON_Parse`. `ftell` returns the length and the allocation succeeds.
* `JsonFile`: a file is a JSON text of a document, of any layout, after a byte order mark or none.
* `configManagerLoad_texts_iff`: **a directory of JSON texts is loaded iff every document is nested
  within the limit of the parser and fits its table**; the manager then holds what the documents
  say, whatever their layout is.
-/

namespace HardwareTest

open Lib CJson LocatedManager

/-! ## Files -/

/-- The document that a loader gets of a path, `none` when the file cannot be read or parsed. -/
def fileDocument (contents : CString → Option (List UInt8)) (path : CString) : Option CJson :=
  (readFileToString (contents path) (.ofNat ((contents path).getD []).length) true).bind
    fun buffer => (cJSONParse buffer.text).toOption

/-- The loaders get this document. -/
lemma loadFile_fileDocument (parser : Parser) (contents : CString → Option (List UInt8))
    (path : CString) (m : LocatedManager) :
    parser.loadFile
        (readFileToString (contents path) (.ofNat ((contents path).getD []).length) true) m =
      parser.load (fileDocument contents path) m := by
  unfold fileDocument
  rcases readFileToString (contents path) (.ofNat ((contents path).getD []).length) true with _ | _
  · rfl
  · rfl

/-- **A JSON file**: a JSON text of the document, shorter than the 32-bit lengths of
`read_file_to_string`. -/
structure JsonFile (content : List UInt8) (document : CJson) : Prop where
  text : ∃ mark w body rest, content = mark ++ w ++ body ++ rest ∧ IsMark mark ∧ JsonPadding w ∧
    Value jsonGrammar body document ∧ JsonPadding rest
  length : content.length < 2 ^ 32 - 1

variable {contents : CString → Option (List UInt8)} {path : CString} {content : List UInt8}
  {document : CJson}

lemma JsonFile.ne_zero (h : JsonFile content document) : 0 ∉ content := by
  obtain ⟨mark, w, body, rest, rfl, hmark, hw, hbody, hrest⟩ := h.text
  have hmark : ∀ b ∈ mark, b ≠ 0 := by
    rcases hmark with rfl | rfl
    · simp
    · exact ne_zero_of_all rfl
  have hall : ∀ b ∈ mark ++ w ++ body ++ rest, b ≠ 0 := by
    simp only [List.forall_mem_append]
    exact ⟨⟨⟨hmark, jsonPadding_ne_zero hw⟩, value_ne_zero hbody⟩, jsonPadding_ne_zero hrest⟩
  exact fun hzero => hall 0 hzero rfl

/-- The length of a file that fits 32 bits is kept. -/
lemma fileLength_ofNat {n : ℕ} (h : n < 2 ^ 32) : (fileLength (.ofNat n)).toNat = n := by
  show n % 2 ^ 64 % 2 ^ 32 = n
  omega

/-- A file whose document ends before its first byte 0 is parsed as a whole. -/
lemma fileDocument_eq (hpath : contents path = some content) (hlength : content.length < 2 ^ 32 - 1)
    (hends : EndsBeforeZero content) :
    fileDocument contents path = (cJSONParse content).toOption := by
  have hlen : (fileLength (.ofNat content.length)).toNat = content.length :=
    fileLength_ofNat (by omega)
  have hread : readFileToString (some content) (.ofNat content.length) true =
      some ⟨(fileLength (.ofNat content.length) + 1).toNat, content ++ [0]⟩ := by
    simp only [readFileToString, Bool.not_true, Bool.false_eq_true, if_false, hlen,
      List.take_length]
  unfold fileDocument
  rw [hpath, Option.getD_some, hread, Option.bind_some, FileBuffer.text, takeWhile_terminated,
    (endsBeforeZero_iff content).mp hends]

/-- **A JSON file leads to its document** if this is nested within the limit, and else to none. -/
theorem fileDocument_json (hpath : contents path = some content) (h : JsonFile content document) :
    (NestedWithin nestingLimit document → fileDocument contents path = some document) ∧
      (¬ NestedWithin nestingLimit document → fileDocument contents path = none) := by
  have heq := fileDocument_eq hpath h.length (endsBeforeZero_of_notMem h.ne_zero)
  obtain ⟨mark, w, body, rest, rfl, hmark, hw, hbody, hrest⟩ := h.text
  obtain ⟨hreads, hrefuses⟩ := cJSONParse_text jsonGrammar_within hmark
    (jsonGrammar_within.padding w hw) hbody (stopsAt_of_jsonPadding hrest)
  constructor
  · intro hnested
    rw [heq, hreads hnested]
    rfl
  · intro hdeep
    obtain ⟨offset, herror⟩ := hrefuses hdeep
    rw [heq, herror]
    rfl

/-- What `cJSON_Print` prints is a JSON file of the document. -/
lemma jsonFile_print (hfree : CJson.NulFree document) (format : Bool)
    (hlength : (cJSONPrint format document).length < 2 ^ 32 - 1) :
    JsonFile (cJSONPrint format document) document :=
  ⟨⟨[], [], _, [], by simp [cJSONPrint], .inl rfl, jsonPadding_nil,
    printValue_value hfree format 0, jsonPadding_nil⟩, hlength⟩

/-! ## Directories -/

section load

variable {files files' : CString → Option CJson} {m r : LocatedManager} {parsers : List Parser}

/-- A load looks at the files of its parsers only. -/
lemma loadEach_congr (h : ∀ parser ∈ parsers, files (m.configFilePath parser.file).chars =
    files' (m.configFilePath parser.file).chars) : m.loadEach files parsers =
      m.loadEach files' parsers := by
  induction parsers generalizing m with
  | nil => rfl
  | cons parser rest ih =>
      rw [loadEach, loadEach, h parser List.mem_cons_self]
      rcases hload : parser.load (files' (m.configFilePath parser.file).chars) m with _ | ⟨code, m'⟩
      · rfl
      · have hsame := configPath_of_load hload
        have hrest := ih (m := m') fun p hp => by
          unfold configFilePath
          rw [hsame]
          exact h p (List.mem_cons_of_mem _ hp)
        simp only [hrest]

/-- A parser without a document fails. -/
lemma load_none (parser : Parser) (m : LocatedManager) : parser.load none m = some (-1, m) := by
  rcases parser with _ | _ | _ | _
  all_goals rfl

/-- A load that succeeds has found every file. -/
lemma isSome_of_result (h : (m.loadEach files parsers).result = some (0, r)) :
    ∀ parser ∈ parsers, (files (m.configFilePath parser.file).chars).isSome = true := by
  induction parsers generalizing m with
  | nil => simp
  | cons parser rest ih =>
      rw [loadEach] at h
      rcases hload : parser.load (files (m.configFilePath parser.file).chars) m with _ | ⟨code, m'⟩
      · rw [hload] at h
        cases h
      · rw [hload] at h
        simp only at h
        split_ifs at h with hcode
        · cases h
        · rw [ne_eq, not_not] at hcode
          have hsame := configPath_of_load hload
          intro p hp
          rcases List.mem_cons.mp hp with rfl | hp
          · by_contra hnone
            rw [Option.not_isSome_iff_eq_none] at hnone
            rw [hnone, load_none] at hload
            obtain ⟨rfl, -⟩ := Prod.mk.inj (Option.some.inj hload)
            cases hcode
          · have hfound := ih h p hp
            unfold configFilePath at hfound ⊢
            rwa [hsame] at hfound

end load

/-- **A configuration directory of JSON texts**: each of the four paths leads to a JSON file. -/
def JsonDirectory (contents : CString → Option (List UInt8))
    (configPath : CharBuf configManagerFilePath) (documents : Parser → CJson) : Prop :=
  ∀ parser : Parser, ∃ content,
    contents (configFilePath ⟨.zeroed, configPath⟩ parser.file).chars = some content ∧
      JsonFile content (documents parser)

/-- The documents of a directory are loaded when they are nested within the limit. -/
lemma configManagerLoad_of_texts {configPath : CharBuf configManagerFilePath}
    {documents : Parser → CJson} (h : JsonDirectory contents configPath documents)
    (hnested : ∀ parser, NestedWithin nestingLimit (documents parser)) (m : ConfigManager)
    (r : LocatedManager) :
    (configManagerLoad (fileDocument contents) ⟨m, configPath⟩).result = some (0, r) ↔
      r.configPath = configPath ∧
        LoadsParts (fun parser => some (documents parser)) m r.toConfigManager := by
  have hfiles : ∀ parser : Parser,
      fileDocument contents (configFilePath ⟨m, configPath⟩ parser.file).chars =
        some (documents parser) := by
    intro parser
    obtain ⟨content, hpath, hfile⟩ := h parser
    exact (fileDocument_json hpath hfile).1 (hnested parser)
  let read : CString → CJson := fun path => (fileDocument contents path).getD .null
  have hread : (configManagerLoad (fileDocument contents) ⟨m, configPath⟩) =
      configManagerLoad (fun path => some (read path)) ⟨m, configPath⟩ :=
    loadEach_congr fun parser _ => by simp only [read, hfiles, Option.getD_some]
  have hdocuments : documentOf read configPath = fun parser => some (documents parser) := by
    funext parser
    have hfile : fileDocument contents
        (configFilePath ⟨.zeroed, configPath⟩ parser.file).chars = some (documents parser) :=
      hfiles parser
    simp only [documentOf, read, hfile, Option.getD_some]
  rw [hread, result_configManagerLoad_iff, hdocuments]
  simp

/-- **From the texts to the manager.** The load of a directory of JSON texts succeeds iff all four
documents are nested within the limit of the parser, and then loads each part of the manager from
its document. Source: `config/config-manager.c`, `config_manager_load`; `utils/util.c`,
`read_file_to_string`; `third-party/cjson-1.7.19/cJSON.c`, `cJSON_Parse` -/
theorem configManagerLoad_texts_iff {configPath : CharBuf configManagerFilePath}
    {documents : Parser → CJson} (h : JsonDirectory contents configPath documents)
    (m : ConfigManager) (r : LocatedManager) :
    (configManagerLoad (fileDocument contents) ⟨m, configPath⟩).result = some (0, r) ↔
      (∀ parser, NestedWithin nestingLimit (documents parser)) ∧ r.configPath = configPath ∧
        LoadsParts (fun parser => some (documents parser)) m r.toConfigManager := by
  have hall : ∀ parser : Parser, parser ∈ [Parser.device, .function, .test, .platform] := by
    intro parser
    rcases parser with _ | _ | _ | _
    all_goals simp
  by_cases hnested : ∀ parser, NestedWithin nestingLimit (documents parser)
  · rw [configManagerLoad_of_texts h hnested]
    simp [hnested]
  · refine iff_of_false (fun hresult => hnested fun parser => ?_) fun hcond => hnested hcond.1
    by_contra hdeep
    obtain ⟨content, hpath, hfile⟩ := h parser
    have hnone := (fileDocument_json hpath hfile).2 hdeep
    have hsome : (fileDocument contents (configFilePath ⟨m, configPath⟩ parser.file).chars).isSome =
        true := isSome_of_result hresult parser (hall parser)
    exact absurd (hsome.symm.trans (congrArg Option.isSome hnone)) (by decide)

/-- Four files that each hold an empty object. -/
theorem configManagerLoad_texts_iff_empty :
    ∃ r, (configManagerLoad (fileDocument fun _ => some (cstr "{}\n"))
      ⟨.zeroed, safeStringCopy (cstr "config") configManagerFilePath⟩).result = some (0, r) := by
  have hnil : JsonPadding [] := fun _ hb => by cases hb
  have hfeed : JsonPadding [10] := fun b hb => .inr (.inr (.inl (List.mem_singleton.mp hb)))
  have hbody : Value jsonGrammar (beginObject :: [] ++ [endObject]) (.object []) :=
    .emptyObject hnil
  have hfile : JsonFile (cstr "{}\n") (.object []) :=
    ⟨⟨[], [], _, [10], rfl, .inl rfl, hnil, hbody, hfeed⟩, by decide⟩
  have hdirectory : JsonDirectory (fun _ => some (cstr "{}\n"))
      (safeStringCopy (cstr "config") configManagerFilePath) fun _ => .object [] :=
    fun _ => ⟨cstr "{}\n", rfl, hfile⟩
  have hnested : NestedWithin nestingLimit (.object []) := fun _ hm => by cases hm
  exact ⟨⟨⟨_, _, _, _⟩, _⟩, (configManagerLoad_texts_iff hdirectory .zeroed _).mpr
    ⟨fun _ => hnested, rfl, ⟨rfl, rfl, rfl, rfl⟩⟩⟩

end HardwareTest
