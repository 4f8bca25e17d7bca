import LendingPool.Proofs.Call.Packed
import LendingPool.Proofs.Settings.Reading
/-! What holds of loaded settings. What the check of the document grants still holds after settings
are overridden, with one exception: nobody looks at a URL that comes from the environment. -/

namespace LendingPool.Settings

open Toml

/-! ## Stages -/

variable {settings loaded : Settings} {environment : Environment} {prefixText text : String}

theorem mapError_eq_ok_iff {ε φ α : Type} {change : ε → φ} {result : Except ε α} {value : α} :
    result.mapError change = .ok value ↔ result = .ok value := by
  cases result <;> simp [Except.mapError]

theorem exists_document_of_parse (parsed : parse environment text = .ok settings) :
    ∃ document, environment.Reads text document ∧ settingsSchema.check document = .ok () ∧
      ofToml? document = some settings := by
  rcases bind_eq_ok_iff.mp parsed with ⟨content, substituted, parsed⟩
  cases reads : Toml.parse? (String.ofList content) with
  | none =>
      rw [reads] at parsed
      cases parsed
  | some document =>
      rw [reads] at parsed
      rcases bind_eq_ok_iff.mp parsed with ⟨⟨⟩, accepted, parsed⟩
      refine ⟨document, ⟨content, substituted, reads⟩, mapError_eq_ok_iff.mp accepted, ?_⟩
      cases read : ofToml? document with
      | none =>
          rw [read] at parsed
          cases parsed
      | some settings =>
          rw [read] at parsed
          cases parsed
          rfl

theorem exists_written_of_parse (parsed : parse environment text = .ok settings) :
    ∃ document : Toml, document.Proper ∧ settingsSchema.check document = .ok () ∧
      settings.WrittenIn document := by
  rcases exists_document_of_parse parsed with ⟨document, ⟨content, -, reads⟩, accepted, read⟩
  have proper := parse?_proper reads
  refine ⟨document, proper, accepted, ?_⟩
  rcases exists_ofToml? proper accepted with ⟨bySurplus, readBySurplus, written⟩
  rw [readBySurplus, Option.map_eq_some_iff] at read
  rcases read with ⟨surplus, given, rfl⟩
  exact written surplus given

theorem of_overridden (overridden : settings.overridden environment prefixText = .ok loaded) :
    loaded.planning = settings.planning ∧
      loaded.network.rpcUrl =
        (environment.lookup (prefixText ++ "RPC_URL")).getD settings.network.rpcUrl := by
  rw [Settings.overridden] at overridden
  generalize environment.lookup (prefixText ++ "RPC_URL") = url at overridden ⊢
  generalize environment.lookup (prefixText ++ "CHAIN_ID") = chain at overridden
  generalize environment.lookup (prefixText ++ "LOG_LEVEL") = level at overridden
  cases chain with
  | none => cases url <;> cases level <;> cases overridden <;> exact ⟨rfl, rfl⟩
  | some text =>
      rcases bind_eq_ok_iff.mp overridden with ⟨chainId, -, overridden⟩
      cases url <;> cases level <;> cases overridden <;> exact ⟨rfl, rfl⟩

theorem of_validate (valid : settings.validate = .ok ()) :
    settings.network.chainId ≠ 0 ∧ settings.planning.surplusPercent.negative = false := by
  rw [validate] at valid
  by_cases zero : settings.network.chainId = 0
  · rw [if_pos zero] at valid
    cases valid
  · rw [if_neg zero] at valid
    refine ⟨zero, ?_⟩
    by_contra negative
    rw [if_pos (Bool.not_eq_false _ ▸ negative)] at valid
    cases valid

theorem exists_parsed_of_load {path : String} {content : FileContent}
    (loads : load environment prefixText path content = .ok settings) :
    ∃ text parsed, content = .text text ∧ parse environment text = .ok parsed ∧
      parsed.overridden environment prefixText = .ok settings ∧ settings.validate = .ok () := by
  cases content with
  | absent | unreadable => cases loads
  | text text =>
      rcases bind_eq_ok_iff.mp loads with ⟨parsed, parses, loads⟩
      rcases bind_eq_ok_iff.mp loads with ⟨loaded, overrides, loads⟩
      rcases bind_eq_ok_iff.mp loads with ⟨⟨⟩, valid, ⟨⟩⟩
      exact ⟨text, parsed, rfl, parses, overrides, valid⟩

/-! ## Documents -/

section

variable {document : Toml} (proper : document.Proper)
  (accepted : settingsSchema.check document = .ok ()) (written : settings.WrittenIn document)
include proper accepted written

theorem isWebUrl_of_written : IsWebUrl settings.network.rpcUrl :=
  (met_of_accepted proper accepted rfl written.network.rpcUrl).isWebUrl

theorem flashPremium_le_of_written : settings.planning.flashPremium.toNat ≤ 10000 := by
  have gives := written.planning.flashPremium
  rw [Gives] at gives
  cases found : document.follow? ["orchestrator", "flash_premium_bps"] with
  | none =>
      rw [found] at gives
      rw [show settings.planning.flashPremium = 5 from gives]
      decide
  | some value =>
      rw [found, Option.elim_some] at gives
      rcases (met_of_accepted proper accepted rfl found).exists_integer with
        ⟨number, rfl, -, greatest⟩
      have bounded := greatest 10000 rfl
      rw [integer.injEq] at gives
      omega

theorem le_gasLimit_of_written {limit : String × UInt64}
    (member : limit ∈ settings.planning.gasLimits) : 21000 ≤ limit.2.toNat := by
  have gives := written.planning.gasLimits
  rw [Gives] at gives
  cases found : document.follow? ["orchestrator", "gas_limits"] with
  | none =>
      rw [found, Option.elim_none] at gives
      rw [gives] at member
      cases member
  | some value =>
      rw [found, Option.elim_some, AreLimits] at gives
      rw [gives] at found
      rcases (met_limit proper accepted found (List.mem_map_of_mem member)).exists_integer with
        ⟨number, same, least, -⟩
      have bounded := least 21000 rfl
      rw [integer.injEq] at same
      omega

end

theorem toRat_nonneg_of_not_negative {decimal : Decimal96} (positive : decimal.negative = false) :
    0 ≤ decimal.toRat := by
  rw [Decimal96.toRat, positive]
  simp
  positivity

/-! ## Loading -/

/-- What the check of the document grants holds of loaded settings, but for the URL: one that
overrides the URL of the document is taken as it is. -/
theorem load_keeps {path : String} {content : FileContent}
    (loads : load environment prefixText path content = .ok settings) :
    1 ≤ settings.network.chainId.toNat ∧ settings.planning.flashPremium.toNat ≤ 10000 ∧
      (∀ limit ∈ settings.planning.gasLimits, 21000 ≤ limit.2.toNat) ∧
      0 ≤ settings.planning.surplusPercent.toRat ∧
      (IsWebUrl settings.network.rpcUrl ↔
        ∀ url, environment.lookup (prefixText ++ "RPC_URL") = some url → IsWebUrl url) := by
  rcases exists_parsed_of_load loads with ⟨text, parsed, -, parses, overrides, valid⟩
  rcases exists_written_of_parse parses with ⟨document, proper, accepted, written⟩
  rcases of_overridden overrides with ⟨samePlanning, url⟩
  rcases of_validate valid with ⟨nonzero, positive⟩
  rw [samePlanning]
  refine ⟨?_, flashPremium_le_of_written proper accepted written,
    fun limit member => le_gasLimit_of_written proper accepted written member,
    toRat_nonneg_of_not_negative (samePlanning ▸ positive), ?_⟩
  · exact Nat.pos_of_ne_zero fun zero => nonzero (UInt64.toNat_inj.mp zero)
  · rw [url]
    cases environment.lookup (prefixText ++ "RPC_URL") with
    | none => simp [isWebUrl_of_written proper accepted written]
    | some url => simp

theorem load_keeps_sample :
    let environment : Environment := [("POOL_CHAIN_ID", "10"), ("NODE", "https://node")]
    let content := "[network]\nchain_id = 1\nrpc_url = \"$\x7bNODE\x7d\"\n" ++
      "[orchestrator]\nsurplus_percent = 2.5\ngas_limits = \x7b supply = 21000 \x7d\n"
    ∃ settings, load environment "POOL_" "config.toml" (.text content) = .ok settings ∧
      1 ≤ settings.network.chainId.toNat ∧
      (∀ limit ∈ settings.planning.gasLimits, 21000 ≤ limit.2.toNat) ∧
      IsWebUrl settings.network.rpcUrl := by
  intro environment content
  let settings : Settings := {
    network := ⟨10, "https://node"⟩
    planning := { surplusPercent := ⟨false, 25, 1⟩, gasLimits := [("supply", 21000)] } }
  have loads : load environment "POOL_" "config.toml" (.text content) = .ok settings := by
    decide +kernel
  have keeps := load_keeps loads
  exact ⟨settings, loads, keeps.1, keeps.2.2.1, keeps.2.2.2.2.mpr nofun⟩

/-- Any text from the environment is taken for a URL. -/
theorem load_any_url :
    ∃ settings, load [("POOL_RPC_URL", "ftp://node")] "POOL_" "config.toml"
        (.text "[network]\nchain_id = 1\nrpc_url = \"http://localhost:8545\"\n") = .ok settings ∧
      ¬ IsWebUrl settings.network.rpcUrl := by
  refine ⟨{ network := ⟨1, "ftp://node"⟩ }, ?_, ?_⟩ <;> decide +kernel

end LendingPool.Settings
