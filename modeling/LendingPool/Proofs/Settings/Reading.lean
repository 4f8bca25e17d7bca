import LendingPool.Proofs.Decimal.Floats
import LendingPool.Proofs.Settings.Accepted
import LendingPool.Proofs.Toml.Document
/-! Settings from a document that the check accepts. They are what the document says, and defaults
where it says nothing. Only one thing that the check accepts cannot be read: a surplus that is a
float from `2 ^ 96` on. -/

namespace LendingPool

open Toml

/-! ## What is written -/

namespace Toml

/-- A setting is what the value at the end of a path means, or else the default. -/
def Gives {α : Type} (document : Toml) (path : List String) (means : Toml → α → Prop)
    (default setting : α) : Prop :=
  (document.follow? path).elim (setting = default) (means · setting)

/-- A float means the number that it is displayed as. -/
def IsDecimal : Toml → Decimal96 → Prop
  | integer value, decimal => decimal.toRat = value
  | float number, decimal =>
      ∃ finite ∈ number, ∃ count size, finite.IsDisplayed count size ∧
        decimal.Holds finite.negative size
  | string text, decimal => decimal.IsSpelled text.toList
  | _, _ => False

def IsAddress (value : Toml) (address : Option Address) : Prop :=
  ∃ given text, address = some given ∧ value = string text ∧ given.IsIn text

def AreLimits (value : Toml) (limits : List (String × UInt64)) : Prop :=
  value = table (limits.map fun (name, limit) => (name, integer limit.toNat))

end Toml

/-- A surplus that is a float but not finite, or too large for a decimal. -/
def Toml.HasStraySurplus (document : Toml) : Prop :=
  ∃ number, document.follow? ["orchestrator", "surplus_percent"] = some (float number) ∧
    ∀ finite ∈ number, 2 ^ 96 ≤ finite.size

def Contracts.byKey : List (String × (Contracts → Option Address)) :=
  [("pool", pool), ("wrapped_token_gateway", wrappedTokenGateway), ("l2_pool", l2Pool),
    ("swap_collateral_adapter", swapCollateralAdapter),
    ("repay_with_collateral_adapter", repayWithCollateralAdapter),
    ("flash_liquidation_adapter", flashLiquidationAdapter), ("ens_registry", ensRegistry)]

structure NetworkSettings.WrittenIn (network : NetworkSettings) (document : Toml) : Prop where
  chainId : document.follow? ["network", "chain_id"] = some (.integer network.chainId.toNat)
  rpcUrl : document.follow? ["network", "rpc_url"] = some (.string network.rpcUrl)

def Contracts.WrittenIn (contracts : Contracts) (document : Toml) : Prop :=
  ∀ contract ∈ byKey, document.Gives ["contracts", contract.1] IsAddress none (contract.2 contracts)

structure PlanningSettings.WrittenIn (planning : PlanningSettings) (document : Toml) : Prop where
  surplusPercent : document.Gives ["orchestrator", "surplus_percent"] IsDecimal (.ofInt 5)
    planning.surplusPercent
  flashPremium : document.Gives ["orchestrator", "flash_premium_bps"]
    (fun value premium => value = .integer premium.toNat) 5 planning.flashPremium
  gasLimits : document.Gives ["orchestrator", "gas_limits"] AreLimits [] planning.gasLimits

structure LoggingSettings.WrittenIn (logging : LoggingSettings) (document : Toml) : Prop where
  level : document.Gives ["logging", "level"] (fun value level => value = .string level) "info"
    logging.level
  json : document.Gives ["logging", "json"] (fun value flag => value = .boolean flag) false
    logging.json

/-- Settings that are what a document says, and defaults where it says nothing. -/
structure Settings.WrittenIn (settings : Settings) (document : Toml) : Prop where
  network : settings.network.WrittenIn document
  contracts : settings.contracts.WrittenIn document
  planning : settings.planning.WrittenIn document
  metadataLifetime : document.Gives ["cache", "metadata_ttl_secs"]
    (fun value seconds => value = .integer seconds.toNat) 3600 settings.metadataLifetime
  logging : settings.logging.WrittenIn document

/-! ## Values -/

namespace Toml

theorem natural?_integer {number : Int} {bound : Nat} (least : 0 ≤ number)
    (less : number < bound) : (integer number).natural? bound = some number.toNat := by
  rw [natural?, if_pos ⟨least, less⟩]

theorem exists_uint64? {number : Int} (least : 0 ≤ number) (less : number < 2 ^ 64) :
    ∃ word, (integer number).uint64? = some word ∧ integer number = integer word.toNat := by
  refine ⟨.ofNat number.toNat, by rw [uint64?, natural?_integer least less, Option.map_some], ?_⟩
  rw [UInt64.toNat_ofNat_of_lt' (by change _ < 2 ^ 64; omega), Int.toNat_of_nonneg least]

theorem exists_uint32? {number : Int} (least : 0 ≤ number) (less : number < 2 ^ 32) :
    ∃ word, (integer number).uint32? = some word ∧ integer number = integer word.toNat := by
  refine ⟨.ofNat number.toNat, by rw [uint32?, natural?_integer least less, Option.map_some], ?_⟩
  rw [UInt32.toNat_ofNat_of_lt' (by change _ < 2 ^ 32; omega), Int.toNat_of_nonneg least]

theorem exists_address? {text : String} (isAddress : IsAddressText text) :
    ∃ address, (string text).address? = some address ∧ address.IsIn text := by
  rcases isAddress.exists_isIn with ⟨address, digits, same, spells⟩
  refine ⟨address, ?_, digits, same, spells⟩
  rw [address?, same, Bytes.toList_marked, Bytes.dropHexMark,
    Address.ofHexDigits?_eq_some_iff.mpr spells]

theorem isDecimal_of_decimal? {value : Toml} {decimal : Decimal96} (proper : value.Proper)
    (reads : value.decimal? = some decimal) : value.IsDecimal decimal := by
  cases value with
  | integer value =>
      rcases proper_integer_iff.mp proper with ⟨least, greatest⟩
      rw [← Option.some.inj reads, IsDecimal, Decimal96.toRat_ofInt (by omega)]
  | float number =>
      rcases Option.bind_eq_some_iff.mp reads with ⟨finite, rfl, reads⟩
      rcases finite.isDisplayed with ⟨count, displayed⟩
      exact ⟨finite, rfl, count, _, displayed, Binary64.holds_of_toDecimal96? reads⟩
  | string text => exact Decimal96.isSpelled_of_ofText? reads
  | boolean | datetime | array | table => cases reads

/-! ## Entries -/

variable {entries : List (String × Toml)} {key : String} {document value : Toml}

theorem givenOr?_eq_elim {α : Type} (read : Toml → Option α) (default : α) :
    givenOr? entries key read default = (entries.lookup key).elim (some default) read := by
  rw [givenOr?, given?]
  cases entries.lookup key with
  | none => rfl
  | some value => cases reads : read value <;> simp [reads]

theorem exists_givenOr? {α : Type} {read : Toml → Option α} {default : α} {holds : α → Prop}
    (absent : entries.lookup key = none → holds default)
    (reads : ∀ value, entries.lookup key = some value →
      ∃ setting, read value = some setting ∧ holds setting) :
    ∃ setting, givenOr? entries key read default = some setting ∧ holds setting := by
  rw [givenOr?_eq_elim]
  cases found : entries.lookup key with
  | none => exact ⟨default, rfl, absent found⟩
  | some value => exact reads value found

def surplus? (document : Toml) : Option Decimal96 :=
  (document.follow? ["orchestrator", "surplus_percent"]).elim (some (.ofInt 5)) decimal?

theorem gives_of_absent {α : Type} {path : List String} {means : Toml → α → Prop} {default : α}
    (absent : document.follow? path = none) : document.Gives path means default default := by
  rw [Gives, absent, Option.elim_none]

theorem gives_below_absent {α : Type} {name key : String} {means : Toml → α → Prop} {default : α}
    (absent : document.follow? [name] = none) :
    document.Gives [name, key] means default default := by
  refine gives_of_absent ?_
  rw [follow?_cons, absent, Option.bind_none]

theorem exists_gives {α : Type} {read : Toml → Option α} {means : Toml → α → Prop}
    {path : List String} (default : α) (place : document.follow? path = entries.lookup key)
    (reads : ∀ value, document.follow? path = some value →
      ∃ setting, read value = some setting ∧ means value setting) :
    ∃ setting, givenOr? entries key read default = some setting ∧
      document.Gives path means default setting := by
  refine exists_givenOr? (fun absent => gives_of_absent (place.trans absent)) fun value looked => ?_
  have found := place.trans looked
  rcases reads value found with ⟨setting, read, holds⟩
  refine ⟨setting, read, ?_⟩
  rw [Gives, found, Option.elim_some]
  exact holds

theorem given?_eq_givenOr? {α : Type} (read : Toml → Option α) :
    given? entries key read = givenOr? entries key (fun value => (read value).map some) none := by
  rw [givenOr?_eq_elim, given?]
  cases entries.lookup key with
  | none => rfl
  | some value => cases reads : read value <;> simp [reads]

theorem exists_limits_of_entries
    (words : ∀ entry ∈ entries, ∃ word, entry.2.uint64? = some word ∧
      entry.2 = integer word.toNat) :
    ∃ limits, gasLimitsOfToml? (table entries) = some limits ∧
      AreLimits (table entries) limits := by
  induction entries with
  | nil => exact ⟨[], rfl, rfl⟩
  | cons entry entries induction =>
      rcases entry with ⟨name, value⟩
      rcases List.forall_mem_cons.mp words with ⟨⟨word, read, rfl⟩, rest⟩
      rcases induction rest with ⟨limits, readLimits, sameLimits⟩
      refine ⟨(name, word) :: limits, ?_, ?_⟩
      · rw [gasLimitsOfToml?, entries?, Option.bind_eq_bind, Option.bind_some] at readLimits ⊢
        rw [List.mapM_cons, readLimits]
        simp [read]
      · rw [AreLimits, table.injEq] at sameLimits ⊢
        rw [List.map_cons, ← sameLimits]

end Toml

/-! ## Sections -/

section

variable {document value : Toml} (proper : document.Proper)

theorem Contracts.writtenIn_absent (absent : document.follow? ["contracts"] = none) :
    WrittenIn {} document := by
  simp [WrittenIn, byKey, gives_below_absent absent]

theorem PlanningSettings.writtenIn_absent (absent : document.follow? ["orchestrator"] = none) :
    WrittenIn {} document :=
  ⟨gives_below_absent absent, gives_below_absent absent, gives_below_absent absent⟩

theorem LoggingSettings.writtenIn_absent (absent : document.follow? ["logging"] = none) :
    WrittenIn {} document :=
  ⟨gives_below_absent absent, gives_below_absent absent⟩

include proper

theorem gives_surplus {surplus : Decimal96} (reads : document.surplus? = some surplus) :
    document.Gives ["orchestrator", "surplus_percent"] IsDecimal (.ofInt 5) surplus := by
  rw [surplus?] at reads
  rw [Gives]
  cases found : document.follow? ["orchestrator", "surplus_percent"] with
  | none =>
      rw [found] at reads
      exact (Option.some.inj reads).symm
  | some value =>
      rw [found] at reads
      exact isDecimal_of_decimal? (proper.follow found) reads

variable (accepted : settingsSchema.check document = .ok ())
include accepted

theorem met_of_accepted {path : List String} {expected : Expectation}
    (leads : settingsSchema.expectation.at? path = some expected)
    (found : document.follow? path = some value) : expected.Met value :=
  Schema.met_of_check proper accepted (Expectation.leads_of_at? leads) found

theorem exists_section {name : String} {required optional : List Field}
    (leads : settingsSchema.expectation.at? [name] = some (.table required optional, none))
    (found : document.follow? [name] = some value) :
    ∃ entries, value = .table entries ∧
      (∀ key, document.follow? [name, key] = entries.lookup key) ∧
      ∀ key ∈ required.map Prod.fst, ∃ inner, entries.lookup key = some inner := by
  rcases (met_of_accepted proper accepted leads found).exists_fields with ⟨entries, rfl, present⟩
  refine ⟨entries, rfl, fun key => ?_, by simpa using present⟩
  rw [Toml.follow?_cons, found, Option.bind_some, Toml.follow?_singleton_table]

theorem NetworkSettings.exists_ofToml? (found : document.follow? ["network"] = some value) :
    ∃ network, ofToml? value = some network ∧ network.WrittenIn document := by
  rcases exists_section proper accepted rfl found with ⟨entries, rfl, below, present⟩
  rcases present "chain_id" (by simp) with ⟨chain, lookedChain⟩
  rcases present "rpc_url" (by simp) with ⟨url, lookedUrl⟩
  have foundChain := (below "chain_id").trans lookedChain
  have foundUrl := (below "rpc_url").trans lookedUrl
  rcases (met_of_accepted proper accepted rfl foundChain).exists_integer with
    ⟨number, rfl, least, -⟩
  rcases (met_of_accepted proper accepted rfl foundUrl).exists_text with ⟨text, rfl⟩
  have bounds := Toml.proper_integer_iff.mp (proper.follow foundChain)
  have positive := least 1 rfl
  rcases @exists_uint64? number (by omega) (by omega) with ⟨chainId, readChain, same⟩
  refine ⟨⟨chainId, text⟩, ?_, same ▸ foundChain, foundUrl⟩
  simp [ofToml?, entries?, lookedChain, lookedUrl, readChain, text?]

theorem Contracts.exists_ofToml? (found : document.follow? ["contracts"] = some value) :
    ∃ contracts, ofToml? value = some contracts ∧ contracts.WrittenIn document := by
  rcases exists_section proper accepted rfl found with ⟨entries, rfl, below, -⟩
  have read {key : String}
      (leads : settingsSchema.expectation.at? ["contracts", key] = some (.text, some .address)) :
      ∃ contract, given? entries key address? = some contract ∧
        document.Gives ["contracts", key] IsAddress none contract := by
    rw [given?_eq_givenOr?]
    refine exists_gives none (below key) fun value found => ?_
    have met := met_of_accepted proper accepted leads found
    rcases met.exists_text with ⟨text, rfl⟩
    rcases exists_address? met.isAddressText with ⟨address, read, isIn⟩
    exact ⟨some address, by rw [read, Option.map_some], address, text, rfl, rfl, isIn⟩
  rcases @read "pool" rfl with ⟨pool, readPool, givesPool⟩
  rcases @read "wrapped_token_gateway" rfl with ⟨gateway, readGateway, givesGateway⟩
  rcases @read "l2_pool" rfl with ⟨packed, readPacked, givesPacked⟩
  rcases @read "swap_collateral_adapter" rfl with ⟨swap, readSwap, givesSwap⟩
  rcases @read "repay_with_collateral_adapter" rfl with ⟨repay, readRepay, givesRepay⟩
  rcases @read "flash_liquidation_adapter" rfl with ⟨liquidation, readLiquidation, givesLiquidation⟩
  rcases @read "ens_registry" rfl with ⟨registry, readRegistry, givesRegistry⟩
  refine ⟨⟨pool, gateway, packed, swap, repay, liquidation, registry⟩, ?_, ?_⟩
  · simp [ofToml?, entries?, readPool, readGateway, readPacked, readSwap, readRepay,
      readLiquidation, readRegistry]
  · simp [WrittenIn, byKey, givesPool, givesGateway, givesPacked, givesSwap, givesRepay,
      givesLiquidation, givesRegistry]

theorem met_limit {entries : List (String × Toml)} {entry : String × Toml}
    (found : document.follow? ["orchestrator", "gas_limits"] = some (.table entries))
    (member : entry ∈ entries) :
    Expectation.Met (.integer (some 21000) none, none) entry.2 := by
  have sorted := (Toml.proper_table_iff.mp (proper.follow found)).1
  have place := Toml.follow?_append ["orchestrator", "gas_limits"] [entry.1] document
  rw [found, Option.bind_some, follow?_singleton_table, Toml.lookup_of_mem sorted member] at place
  exact met_of_accepted proper accepted rfl place

theorem exists_limits (found : document.follow? ["orchestrator", "gas_limits"] = some value) :
    ∃ limits, gasLimitsOfToml? value = some limits ∧ AreLimits value limits := by
  rcases (met_of_accepted proper accepted rfl found).exists_entries with ⟨entries, rfl⟩
  have inside := (Toml.proper_table_iff.mp (proper.follow found)).2
  refine exists_limits_of_entries fun entry member => ?_
  rcases (met_limit proper accepted found member).exists_integer with ⟨number, same, least, -⟩
  have bounds := inside entry member
  rw [same, Toml.proper_integer_iff] at bounds
  have positive := least 21000 rfl
  rw [same]
  exact exists_uint64? (by omega) (by omega)

theorem PlanningSettings.exists_ofToml? (found : document.follow? ["orchestrator"] = some value) :
    ∃ planning : Decimal96 → PlanningSettings, ofToml? value = document.surplus?.map planning ∧
      ∀ surplus, document.surplus? = some surplus → (planning surplus).WrittenIn document := by
  rcases exists_section proper accepted rfl found with ⟨entries, rfl, below, -⟩
  have readPremium : ∃ premium, givenOr? entries "flash_premium_bps" uint32? 5 = some premium ∧
      document.Gives ["orchestrator", "flash_premium_bps"]
        (fun value premium => value = .integer premium.toNat) 5 premium := by
    refine exists_gives 5 (below "flash_premium_bps") fun value found => ?_
    have met := met_of_accepted proper accepted rfl found
    rcases met.exists_integer with ⟨number, rfl, least, greatest⟩
    have bounded := greatest 10000 rfl
    exact exists_uint32? (least 0 rfl) (by omega)
  have readLimits : ∃ limits, givenOr? entries "gas_limits" gasLimitsOfToml? [] = some limits ∧
      document.Gives ["orchestrator", "gas_limits"] AreLimits [] limits :=
    exists_gives [] (below "gas_limits") fun value found => exists_limits proper accepted found
  have readSurplus : givenOr? entries "surplus_percent" decimal? (.ofInt 5) =
      document.surplus? := by
    rw [surplus?, below "surplus_percent", givenOr?_eq_elim]
  rcases readPremium with ⟨premium, readPremium, givesPremium⟩
  rcases readLimits with ⟨limits, readLimits, givesLimits⟩
  refine ⟨fun surplus => ⟨surplus, premium, limits⟩, ?_, fun surplus reads => ?_⟩
  · simp [ofToml?, entries?, readPremium, readLimits, readSurplus, Option.map_eq_bind]
  · exact ⟨gives_surplus proper reads, givesPremium, givesLimits⟩

theorem exists_metadataLifetimeOfToml? (found : document.follow? ["cache"] = some value) :
    ∃ lifetime, metadataLifetimeOfToml? value = some lifetime ∧
      document.Gives ["cache", "metadata_ttl_secs"]
        (fun value seconds => value = .integer seconds.toNat) 3600 lifetime := by
  rcases exists_section proper accepted rfl found with ⟨entries, rfl, below, -⟩
  refine exists_gives 3600 (below "metadata_ttl_secs") fun value found => ?_
  have met := met_of_accepted proper accepted rfl found
  rcases met.exists_integer with ⟨number, rfl, least, -⟩
  have bounds := Toml.proper_integer_iff.mp (proper.follow found)
  exact exists_uint64? (least 0 rfl) (by omega)

theorem LoggingSettings.exists_ofToml? (found : document.follow? ["logging"] = some value) :
    ∃ logging, ofToml? value = some logging ∧ logging.WrittenIn document := by
  rcases exists_section proper accepted rfl found with ⟨entries, rfl, below, -⟩
  have readLevel : ∃ level, givenOr? entries "level" text? "info" = some level ∧
      document.Gives ["logging", "level"] (fun value level => value = .string level) "info"
        level := by
    refine exists_gives "info" (below "level") fun value found => ?_
    rcases (met_of_accepted proper accepted rfl found).exists_text with ⟨text, rfl⟩
    exact ⟨text, rfl, rfl⟩
  have readJson : ∃ json, givenOr? entries "json" flag? false = some json ∧
      document.Gives ["logging", "json"] (fun value flag => value = .boolean flag) false
        json := by
    refine exists_gives false (below "json") fun value found => ?_
    rcases (met_of_accepted proper accepted rfl found).exists_flag with ⟨flag, rfl⟩
    exact ⟨flag, rfl, rfl⟩
  rcases readLevel with ⟨level, readLevel, givesLevel⟩
  rcases readJson with ⟨json, readJson, givesJson⟩
  exact ⟨⟨level, json⟩, by simp [ofToml?, entries?, readLevel, readJson], givesLevel, givesJson⟩

/-! ## Settings -/

theorem Settings.exists_ofToml? :
    ∃ settings : Decimal96 → Settings, ofToml? document = document.surplus?.map settings ∧
      ∀ surplus, document.surplus? = some surplus → (settings surplus).WrittenIn document := by
  have met := met_of_accepted proper accepted rfl (follow?_nil document)
  rcases met.exists_fields with ⟨entries, rfl, present⟩
  simp only [follow?_singleton_table] at present
  have place (key : String) := follow?_singleton_table key entries
  rcases present "network" (by simp [settingsSchema]) with ⟨value, looked⟩
  rcases NetworkSettings.exists_ofToml? proper accepted ((place _).trans looked) with
    ⟨network, readNetwork, networkWritten⟩
  have readContracts : ∃ contracts,
      givenOr? entries "contracts" Contracts.ofToml? {} = some contracts ∧
        contracts.WrittenIn (.table entries) :=
    exists_givenOr? (fun missing => Contracts.writtenIn_absent ((place _).trans missing))
      fun _ looked => Contracts.exists_ofToml? proper accepted ((place _).trans looked)
  have readPlanning : ∃ planning : Decimal96 → PlanningSettings,
      givenOr? entries "orchestrator" PlanningSettings.ofToml? {} =
        (Toml.table entries).surplus?.map planning ∧
      ∀ surplus, (Toml.table entries).surplus? = some surplus →
        (planning surplus).WrittenIn (.table entries) := by
    rw [givenOr?_eq_elim]
    cases looked : entries.lookup "orchestrator" with
    | some value => exact PlanningSettings.exists_ofToml? proper accepted ((place _).trans looked)
    | none =>
        have absent := (place _).trans looked
        have byDefault : (Toml.table entries).surplus? = some (.ofInt 5) := by
          rw [surplus?, follow?_cons, absent]
          rfl
        rw [byDefault]
        refine ⟨fun surplus => { surplusPercent := surplus }, rfl, ?_⟩
        rintro _ ⟨⟩
        exact PlanningSettings.writtenIn_absent absent
  have readLifetime : ∃ lifetime,
      givenOr? entries "cache" metadataLifetimeOfToml? 3600 = some lifetime ∧
        (Toml.table entries).Gives ["cache", "metadata_ttl_secs"]
          (fun value seconds => value = .integer seconds.toNat) 3600 lifetime :=
    exists_givenOr? (fun missing => gives_below_absent ((place _).trans missing))
      fun _ looked => exists_metadataLifetimeOfToml? proper accepted ((place _).trans looked)
  have readLogging : ∃ logging,
      givenOr? entries "logging" LoggingSettings.ofToml? {} = some logging ∧
        logging.WrittenIn (.table entries) :=
    exists_givenOr? (fun missing => LoggingSettings.writtenIn_absent ((place _).trans missing))
      fun _ looked => LoggingSettings.exists_ofToml? proper accepted ((place _).trans looked)
  rcases readContracts with ⟨contracts, readContracts, contractsWritten⟩
  rcases readPlanning with ⟨planning, readPlanning, planningWritten⟩
  rcases readLifetime with ⟨lifetime, readLifetime, lifetimeWritten⟩
  rcases readLogging with ⟨logging, readLogging, loggingWritten⟩
  refine ⟨fun surplus => ⟨network, contracts, planning surplus, lifetime, logging⟩, ?_, ?_⟩
  · simp [ofToml?, entries?, looked, readNetwork, readContracts, readPlanning, readLifetime,
      readLogging, Option.map_eq_bind, Option.bind_assoc]
  · exact fun surplus reads => ⟨networkWritten, contractsWritten, planningWritten surplus reads,
      lifetimeWritten, loggingWritten⟩

theorem surplus?_eq_none_iff : document.surplus? = none ↔ document.HasStraySurplus := by
  rw [surplus?, HasStraySurplus]
  cases found : document.follow? ["orchestrator", "surplus_percent"] with
  | none => simp
  | some value =>
      rw [Option.elim_some]
      rcases (met_of_accepted proper accepted rfl found).decimal_cases with
        ⟨number, rfl⟩ | ⟨number, rfl⟩ | ⟨text, decimal, rfl, reads⟩
      · simp [decimal?]
      · simp [decimal?, Option.bind_eq_none_iff, Binary64.toDecimal96?_eq_none_iff]
      · simp [decimal?, reads]

end

/-- The document that a text is, once its references are replaced. -/
def Environment.Reads (environment : Environment) (text : String) (document : Toml) : Prop :=
  ∃ content, substitute environment text.toList = .ok content ∧
    Toml.parse? (String.ofList content) = some document

theorem Settings.parse_of_accepted {environment : Environment} {text : String} {document : Toml}
    (reads : environment.Reads text document)
    (accepted : settingsSchema.check document = .ok ()) :
    parse environment text = (ofToml? document).elim (.error .unparsable) .ok := by
  rcases reads with ⟨content, substituted, parsed⟩
  simp only [parse, substituted, parsed, accepted, Except.mapError, bind, Except.bind]
  cases ofToml? document <;> rfl

/-- Settings of an accepted document are read, and are what it says, unless its surplus is a float
that is not finite or too large. -/
theorem Settings.reads_accepted {document : Toml} (proper : document.Proper)
    (accepted : settingsSchema.check document = .ok ()) :
    (¬ document.HasStraySurplus → ∃ settings, ofToml? document = some settings ∧
      settings.WrittenIn document ∧
        ∀ environment text, Environment.Reads environment text document →
          parse environment text = .ok settings) ∧
    (document.HasStraySurplus → ofToml? document = none ∧
      ∀ environment text, Environment.Reads environment text document →
        parse environment text = .error .unparsable) := by
  rcases exists_ofToml? proper accepted with ⟨settings, read, written⟩
  have lost := surplus?_eq_none_iff proper accepted
  constructor
  · intro plain
    rcases Option.ne_none_iff_exists'.mp (plain ∘ lost.mp) with ⟨surplus, given⟩
    rw [given, Option.map_some] at read
    refine ⟨settings surplus, read, written surplus given, fun environment text reads => ?_⟩
    rw [parse_of_accepted reads accepted, read, Option.elim_some]
  · intro stray
    rw [lost.mpr stray, Option.map_none] at read
    refine ⟨read, fun environment text reads => ?_⟩
    rw [parse_of_accepted reads accepted, read, Option.elim_none]

theorem Settings.reads_accepted_sample :
    let document := Toml.table [
      ("contracts", .table [("pool", .string "0x87870Bca3F3fD6335C3F4ce8392D69350B4fA4E2")]),
      ("network", .table [("chain_id", .integer 10), ("rpc_url", .string "https://node")]),
      ("orchestrator", .table [
        ("gas_limits", .table [("supply", .integer 300000)]),
        ("surplus_percent", .string "2.50")])]
    document.Proper ∧ settingsSchema.check document = .ok () ∧ ¬ document.HasStraySurplus ∧
      ∃ settings, ofToml? document = some settings ∧ settings.WrittenIn document := by
  intro document
  have proper : document.Proper := by
    simp only [document, proper_table_iff, List.forall_mem_cons, List.not_mem_nil,
      false_implies, implies_true, proper_string, proper_integer_iff]
    decide
  have accepted : settingsSchema.check document = .ok () := rfl
  have plain : ¬ document.HasStraySurplus := by
    rintro ⟨number, found, -⟩
    cases found
  rcases (reads_accepted proper accepted).1 plain with ⟨settings, read, written, -⟩
  exact ⟨proper, accepted, plain, settings, read, written⟩

/-- The check accepts `1e30`, for which there is no decimal. -/
theorem Settings.accepted_not_read :
    let text := "[network]\nchain_id = 1\nrpc_url = \"http://localhost:8545\"\n" ++
      "[orchestrator]\nsurplus_percent = 1e30\n"
    ∃ document, Toml.parse? text = some document ∧ settingsSchema.check document = .ok () ∧
      ofToml? document = none ∧ parse [] text = .error .unparsable := by
  intro text
  have read : (Toml.parse? text).any (fun document =>
      decide (settingsSchema.check document = .ok ()) && (ofToml? document).isNone) = true := by
    decide +kernel
  rcases (Option.any_eq_true _ _).mp read with ⟨document, parsed, both⟩
  rw [Bool.and_eq_true, decide_eq_true_eq, Option.isNone_iff_eq_none] at both
  exact ⟨document, parsed, both.1, both.2, by decide +kernel⟩

end LendingPool
