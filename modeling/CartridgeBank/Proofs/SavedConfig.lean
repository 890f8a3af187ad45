import CartridgeBank.Config.Toml
import CartridgeBank.Proofs.Geometry
import CartridgeBank.Proofs.Toml.Integers
import CartridgeBank.Proofs.Toml.Lines
import Mathlib

namespace CartridgeBank

open Toml

/-- No limit is too large for a document. -/
structure Endpoint.LimitsFit (endpoint : Endpoint) : Prop where
  connectTimeout : endpoint.connectTimeout ≤ maxInteger
  readTimeout : endpoint.readTimeout ≤ maxInteger
  writeTimeout : endpoint.writeTimeout ≤ maxInteger

namespace Config

variable {config : Config}

/-- No number of a configuration is too large for a document. -/
structure NumbersFit (config : Config) : Prop where
  cartridges : config.geometry.cartridges ≤ maxInteger
  framesPerCartridge : config.geometry.framesPerCartridge ≤ maxInteger
  frameSize : config.geometry.frameSize ≤ maxInteger
  cacheFrames : config.cacheFrames ≤ maxInteger
  limits : config.endpoint.LimitsFit

/-- Of a valid configuration, only the time limits may be too large. -/
theorem numbersFit_of_validate (valid : config.validate = .ok ())
    (limits : config.endpoint.LimitsFit) : config.NumbersFit := by
  obtain ⟨geometry, _, cache⟩ := validate_ok valid
  have small : 65536 ≤ maxInteger := by decide
  have slots : maxCacheFrames ≤ maxInteger := by decide
  exact ⟨geometry.cartridges_le.trans small, geometry.frames_le.trans small,
    geometry.frameSize_le.trans small, cache.trans slots, limits⟩

end Config

/-- The section of a geometry. -/
def Geometry.entries (geometry : Geometry) : Entries :=
  [("max_cartridges", .integer geometry.cartridges),
    ("frames_per_cartridge", .integer geometry.framesPerCartridge),
    ("frame_size", .integer geometry.frameSize)]

/-- The section of an endpoint. -/
def Endpoint.entries (endpoint : Endpoint) : Entries :=
  [("host", .text endpoint.host), ("port", .integer endpoint.port.toNat),
    ("connect_timeout_ms", .integer endpoint.connectTimeout),
    ("read_timeout_ms", .integer endpoint.readTimeout),
    ("write_timeout_ms", .integer endpoint.writeTimeout)]

/-- The sections of a configuration. -/
def Config.sections (config : Config) : List (String × Entries) :=
  [("geometry", config.geometry.entries), ("cache", [("capacity", .integer config.cacheFrames)]),
    ("network", config.endpoint.entries)]

theorem fields?_table (names : List String) (origin : Origin) (entries : Entries) :
    Document.fields? names (Node.table origin entries) =
      some (names.map fun name => entries.lookup name) := rfl

theorem word?_integer {bits value : Nat} (small : value < 1 <<< bits) :
    Document.word? bits (Node.integer value) = some value := by
  simp [Document.word?, Document.natural?, small]

theorem word?_of_le_maxInteger {value : Nat} (fits : value ≤ maxInteger) :
    Document.word? 64 (Node.integer value) = some value :=
  word?_integer (Nat.lt_of_le_of_lt fits (by decide))

namespace Config.NumbersFit

variable {config : Config}

theorem ofDocument?_geometry (fit : config.NumbersFit) :
    Geometry.ofDocument? (Node.table .header config.geometry.entries) = some config.geometry := by
  simp [Geometry.ofDocument?, fields?_table, Geometry.entries, List.lookup_cons, Document.field,
    word?_of_le_maxInteger fit.cartridges, word?_of_le_maxInteger fit.framesPerCartridge,
    word?_of_le_maxInteger fit.frameSize]

theorem ofDocument?_cache (fit : config.NumbersFit) :
    cacheFramesOfDocument? (Node.table .header [("capacity", .integer config.cacheFrames)]) =
      some config.cacheFrames := by
  simp [cacheFramesOfDocument?, fields?_table, List.lookup_cons, Document.field,
    word?_of_le_maxInteger fit.cacheFrames]

theorem ofDocument?_endpoint (fit : config.NumbersFit) :
    Endpoint.ofDocument? (Node.table .header config.endpoint.entries) = some config.endpoint := by
  have port : Document.word? 16 (Node.integer config.endpoint.port.toNat) =
      some config.endpoint.port.toNat := word?_integer config.endpoint.port.toNat_lt
  simp [Endpoint.ofDocument?, fields?_table, Endpoint.entries, List.lookup_cons, Document.field,
    Document.text?, port, word?_of_le_maxInteger fit.limits.connectTimeout,
    word?_of_le_maxInteger fit.limits.readTimeout, word?_of_le_maxInteger fit.limits.writeTimeout]

/-- A configuration is read back from its sections. -/
theorem ofDocument?_sections (fit : config.NumbersFit) :
    Config.ofDocument? (Node.table .header
      (config.sections.map fun (key, inner) => (key, .table .header inner))) = some config := by
  simp [Config.ofDocument?, fields?_table, Config.sections, List.lookup_cons, Document.field,
    fit.ofDocument?_geometry, fit.ofDocument?_cache, fit.ofDocument?_endpoint]

end Config.NumbersFit

namespace Config

variable {config : Config}

def writeNumber (key : String) (value : Nat) : List Char := writePair key (Nat.toDigits 10 value)

/-- The lines of a configuration whose numbers fit. -/
def tomlLines (config : Config) : List Char :=
  writeHeader "geometry" ++
  (writeNumber "max_cartridges" config.geometry.cartridges ++
  (writeNumber "frames_per_cartridge" config.geometry.framesPerCartridge ++
  (writeNumber "frame_size" config.geometry.frameSize ++
  '\n' :: (writeHeader "cache" ++
  (writeNumber "capacity" config.cacheFrames ++
  '\n' :: (writeHeader "network" ++
  (writePair "host" (writeText config.endpoint.host.toList) ++
  (writeNumber "port" config.endpoint.port.toNat ++
  (writeNumber "connect_timeout_ms" config.endpoint.connectTimeout ++
  (writeNumber "read_timeout_ms" config.endpoint.readTimeout ++
  (writeNumber "write_timeout_ms" config.endpoint.writeTimeout ++ [])))))))))))

theorem port_le (config : Config) : config.endpoint.port.toNat ≤ maxInteger :=
  (Nat.le_of_lt config.endpoint.port.toNat_lt).trans (by decide)

theorem tomlLines?_eq (fit : config.NumbersFit) : config.tomlLines? = some config.tomlLines := by
  have number {value : Nat} (fits : value ≤ maxInteger) (key : String) :
      (writeNatural? value).map (writePair key) = some (writeNumber key value) := by
    rw [writeNatural?, if_pos fits]
    rfl
  unfold tomlLines? tomlLines
  simp only [number fit.cartridges, number fit.framesPerCartridge, number fit.frameSize,
    number fit.cacheFrames, number (port_le config), number fit.limits.connectTimeout,
    number fit.limits.readTimeout, number fit.limits.writeTimeout, Option.bind_eq_bind,
    Option.bind_some, Option.pure_def, List.append_assoc, List.append_nil, List.cons_append,
    List.nil_append]

theorem isBare_key : ∀ key ∈ ["geometry", "max_cartridges", "frames_per_cartridge", "frame_size",
    "cache", "capacity", "network", "host", "port", "connect_timeout_ms", "read_timeout_ms",
    "write_timeout_ms"], IsBare key := by
  simp only [List.forall_mem_cons, IsBare, String.reduceToList]
  decide

/-- The lines of a configuration are read as its sections. -/
theorem reads_tomlLines (fit : config.NumbersFit) :
    Reads config.tomlLines (sectionStatements config.sections) := by
  have host : Written (writeText config.endpoint.host.toList) (.text config.endpoint.host) := by
    have written := written_writeText config.endpoint.host.toList
    rwa [String.ofList_toList] at written
  unfold tomlLines
  refine .header (isBare_key _ (by simp)) ?_
  refine .pair (isBare_key _ (by simp)) (written_toDigits fit.cartridges) ?_
  refine .pair (isBare_key _ (by simp)) (written_toDigits fit.framesPerCartridge) ?_
  refine .pair (isBare_key _ (by simp)) (written_toDigits fit.frameSize) ?_
  refine .blank <| .header (isBare_key _ (by simp)) ?_
  refine .pair (isBare_key _ (by simp)) (written_toDigits fit.cacheFrames) ?_
  refine .blank <| .header (isBare_key _ (by simp)) ?_
  refine .pair (isBare_key _ (by simp)) host ?_
  refine .pair (isBare_key _ (by simp)) (written_toDigits (port_le config)) ?_
  refine .pair (isBare_key _ (by simp)) (written_toDigits fit.limits.connectTimeout) ?_
  refine .pair (isBare_key _ (by simp)) (written_toDigits fit.limits.readTimeout) ?_
  exact .pair (isBare_key _ (by simp)) (written_toDigits fit.limits.writeTimeout) .nil

theorem distinct_sections (config : Config) : (config.sections.map Prod.fst).Nodup ∧
    ∀ entries ∈ config.sections.map Prod.snd, (entries.map Prod.fst).Nodup := by
  simp [sections, Geometry.entries, Endpoint.entries]

/-- What is written of a configuration is read back, if no number in it is too large. -/
theorem ofToml_toToml (valid : config.validate = .ok ()) (fit : config.NumbersFit) :
    ∃ written, config.toToml = .ok written ∧ ofToml written = .ok config := by
  obtain ⟨distinct, each⟩ := distinct_sections config
  have parsed : document? (String.ofList config.tomlLines) = some (.table .header
      (config.sections.map fun (key, inner) => (key, .table .header inner))) :=
    (document?_of_reads (by decide) (reads_tomlLines fit)).trans
      (ofStatements?_sections config.sections distinct each)
  refine ⟨String.ofList config.tomlLines, ?_, ?_⟩
  · rw [toToml, tomlLines?_eq fit]
  · rw [ofToml, parsed, Option.bind_some, fit.ofDocument?_sections]
    dsimp only
    rw [valid]
    rfl

end Config

/-- The values of fields are as small as those of the document. -/
theorem fields?_fits {names : List String} {node : Node} {values : List (Option Node)}
    (fits : node.Fits) (read : Document.fields? names node = some values) :
    ∀ value, some value ∈ values → value.Fits := by
  have ordered (items : List Node) (each : ∀ item ∈ items, item.Fits) :
      ∀ value, some value ∈ Document.inOrder names items → value.Fits := by
    intro value member
    obtain ⟨index, _, here⟩ := List.mem_mapIdx.mp member
    exact each value (List.mem_of_getElem? here)
  cases fits with
  | table each =>
    cases read
    intro value member
    obtain ⟨name, _, found⟩ := List.mem_map.mp member
    exact Entries.Fits.lookup each found
  | moment =>
    cases read
    intro value member
    obtain ⟨name, _, missing⟩ := List.mem_map.mp member
    cases missing
  | array each =>
    cases read
    exact ordered _ each
  | tables each =>
    cases read
    refine ordered _ fun item member => ?_
    obtain ⟨element, known, rfl⟩ := List.mem_map.mp member
    exact .table (each element known)
  | text | integer | float | boolean => cases read

theorem word?_le {bits value : Nat} {node : Node} (fits : node.Fits)
    (read : Document.word? bits node = some value) : value ≤ maxInteger := by
  obtain ⟨natural, number, read⟩ := Option.bind_eq_some_iff.mp read
  split at read
  · cases read
    cases fits with
    | integer bound =>
      simp only [Document.natural?, Option.ite_none_right_eq_some, Option.some.injEq] at number
      omega
    | text | float | boolean | moment | array | table | tables => cases number
  · cases read

/-- A number is read from a document, or it is the default. -/
theorem field_le {bits default value : Nat} {found : Option Node} (small : default ≤ maxInteger)
    (fits : ∀ node, found = some node → node.Fits)
    (read : Document.field default (Document.word? bits) found = some value) :
    value ≤ maxInteger := by
  cases found with
  | none =>
    cases read
    exact small
  | some node => exact word?_le (fits node rfl) read

theorem Endpoint.limitsFit_default : ({} : Endpoint).LimitsFit := by
  constructor <;> decide

theorem Endpoint.limitsFit_of_ofDocument? {node : Node} {endpoint : Endpoint} (fits : node.Fits)
    (read : Endpoint.ofDocument? node = some endpoint) : endpoint.LimitsFit := by
  obtain ⟨values, fields, read⟩ := Option.bind_eq_some_iff.mp read
  have each := fields?_fits fits fields
  have default : 5000 ≤ maxInteger := by decide
  split at read
  · obtain ⟨host, _, read⟩ := Option.bind_eq_some_iff.mp read
    obtain ⟨port, _, read⟩ := Option.bind_eq_some_iff.mp read
    obtain ⟨connect, connectRead, read⟩ := Option.bind_eq_some_iff.mp read
    obtain ⟨reading, readingRead, read⟩ := Option.bind_eq_some_iff.mp read
    obtain ⟨writing, writingRead, same⟩ := Option.bind_eq_some_iff.mp read
    cases same
    exact ⟨field_le default (fun node here => each node (by simp [here])) connectRead,
      field_le default (fun node here => each node (by simp [here])) readingRead,
      field_le default (fun node here => each node (by simp [here])) writingRead⟩
  · cases read

theorem Config.limitsFit_of_ofDocument? {node : Node} {config : Config} (fits : node.Fits)
    (read : Config.ofDocument? node = some config) : config.endpoint.LimitsFit := by
  obtain ⟨values, fields, read⟩ := Option.bind_eq_some_iff.mp read
  have each := fields?_fits fits fields
  split at read
  · rename_i network
    obtain ⟨geometry, _, read⟩ := Option.bind_eq_some_iff.mp read
    obtain ⟨cacheFrames, _, read⟩ := Option.bind_eq_some_iff.mp read
    obtain ⟨endpoint, endpointRead, same⟩ := Option.bind_eq_some_iff.mp read
    cases same
    cases network with
    | none =>
      cases endpointRead
      exact Endpoint.limitsFit_default
    | some node => exact Endpoint.limitsFit_of_ofDocument? (each node (by simp)) endpointRead
  · cases read

namespace Config

theorem ofToml_ok {text : String} {config : Config} (read : ofToml text = .ok config) :
    config.validate = .ok () ∧ config.endpoint.LimitsFit := by
  unfold ofToml at read
  split at read
  · cases read
  · rename_i found parsed
    obtain ⟨node, document, fields⟩ := Option.bind_eq_some_iff.mp parsed
    cases valid : found.validate with
    | error fault =>
      rw [valid] at read
      cases read
    | ok _ =>
      rw [valid] at read
      cases read
      exact ⟨valid, limitsFit_of_ofDocument? (document?_fits document) fields⟩

/-- A configuration survives being saved. What is accepted of any text is valid, and writing it
gives a text that stands for the same; so does writing any valid configuration whose time limits
are no larger than the integers of a document, whatever its host is. -/
theorem toml_roundtrip :
    (∀ text config, ofToml text = .ok config → config.validate = .ok () ∧
      ∃ written, config.toToml = .ok written ∧ ofToml written = .ok config) ∧
    ∀ config : Config, config.validate = .ok () →
      config.endpoint.connectTimeout ≤ 2 ^ 63 - 1 → config.endpoint.readTimeout ≤ 2 ^ 63 - 1 →
      config.endpoint.writeTimeout ≤ 2 ^ 63 - 1 →
      ∃ written, config.toToml = .ok written ∧ ofToml written = .ok config := by
  have limit : maxInteger = 2 ^ 63 - 1 := by decide
  refine ⟨fun text config read => ?_, fun config valid connect read write => ?_⟩
  · obtain ⟨valid, limits⟩ := ofToml_ok read
    exact ⟨valid, ofToml_toToml valid (numbersFit_of_validate valid limits)⟩
  · rw [← limit] at connect read write
    exact ofToml_toToml valid (numbersFit_of_validate valid ⟨connect, read, write⟩)

/-- A text with a few settings, and a host with quotes of both kinds, a backslash, line breaks, a tab
and a control character. -/
theorem toml_roundtrip_quoted_host :
    (ofToml "[cache]\ncapacity = 7\n[network]\nread_timeout_ms = 0x7fffffffffffffff\n" =
        .ok { cacheFrames := 7, endpoint := { readTimeout := maxInteger } } ∧
      ∃ written, toToml { cacheFrames := 7, endpoint := { readTimeout := maxInteger } } =
        .ok written ∧
        ofToml written = .ok { cacheFrames := 7, endpoint := { readTimeout := maxInteger } }) ∧
    ∃ written,
      toToml { endpoint := { host := "\n\"\"\"\"'''\\\r\n\t\x01é\"" } } = .ok written ∧
      ofToml written = .ok { endpoint := { host := "\n\"\"\"\"'''\\\r\n\t\x01é\"" } } := by
  have read : ofToml "[cache]\ncapacity = 7\n[network]\nread_timeout_ms = 0x7fffffffffffffff\n" =
      .ok { cacheFrames := 7, endpoint := { readTimeout := maxInteger } } := by
    unfold ofToml document?
    dsimp only [String.reduceToList]
    rfl
  refine ⟨⟨read, (toml_roundtrip.1 _ _ read).2⟩, toml_roundtrip.2 _ ?_ ?_ ?_ ?_⟩
  · decide
  · decide
  · decide
  · decide

end Config

end CartridgeBank
