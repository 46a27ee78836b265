import Assay.Provider
import Mathlib.Data.List.DropRight

/-!
# Destinations

An endpoint is where the first address says that is given and not empty: that of the arguments, or
else that of the environment for a chat endpoint and a fixed one for a plain endpoint. Slashes at
the end of the address are taken off, and without any address no chat endpoint is connected to. An
address is compared with the empty text before its slashes are taken off, so one of slashes alone
passes, stands before all others, and leaves an endpoint without a destination. In every other case
an endpoint that is connected to has one (`Provider.connect_destines_iff`).
-/
namespace Assay

/-- An address is what is left of a text without the slashes at its end. -/
structure IsTrimmed (address text : String) : Prop where
  /-- Nothing but slashes is taken off. -/
  slashes : ∃ count, text.toList = address.toList ++ List.replicate count '/'
  /-- No slash is left at the end. -/
  bare : address.toList.getLast? ≠ some '/'

/-- A text leads somewhere: it does not consist of slashes alone. -/
def IsUsable (text : String) : Prop :=
  ∃ c ∈ text.toList, c ≠ '/'

/-- The characters of a trimmed address are those before the slashes at its end. -/
theorem toList_trimSlashes (text : String) :
    (trimSlashes text).toList = text.toList.rdropWhile (· = '/') := by
  rw [trimSlashes, String.toList_ofList, List.rdropWhile]

/-- Trimming takes the slashes off the end of an address. -/
theorem isTrimmed_trimSlashes (text : String) : IsTrimmed (trimSlashes text) text := by
  constructor
  case slashes =>
    have onlySlashes : ∀ c ∈ text.toList.rtakeWhile (· = '/'), c = '/' := fun c member => by
      simpa using List.mem_rtakeWhile_imp member
    refine ⟨(text.toList.rtakeWhile (· = '/')).length, ?_⟩
    rw [toList_trimSlashes, ← List.eq_replicate_of_mem onlySlashes,
      List.rdropWhile_append_rtakeWhile]
  case bare =>
    intro slash
    rw [toList_trimSlashes] at slash
    have left : text.toList.rdropWhile (· = '/') ≠ [] := by
      intro empty
      rw [empty] at slash
      contradiction
    rw [List.getLast?_eq_some_getLast left] at slash
    exact List.rdropWhile_last_not _ _ left (decide_eq_true (Option.some.inj slash))

/-- Nothing is left of an address exactly when it consists of slashes. -/
theorem trimSlashes_ne_empty_iff (text : String) : trimSlashes text ≠ "" ↔ IsUsable text := by
  have empty : trimSlashes text = "" ↔ ∀ c ∈ text.toList, c = '/' := by
    rw [← String.toList_inj, toList_trimSlashes]
    simp [List.rdropWhile_eq_nil_iff]
  rw [Ne, empty, IsUsable]
  push Not
  rfl

namespace Provider

/-- The addresses that a provider may connect to, in the order in which they count. -/
def addresses (environment : Environment) (arguments : ModelArguments) : Provider → List String
  | .chat => arguments.address.toList ++ environment.address.toList
  | .plain => arguments.address.toList ++ [Endpoint.Plain.defaultAddress]

/-- The first address that is not empty. -/
def address? (environment : Environment) (arguments : ModelArguments) (provider : Provider) :
    Option String :=
  (provider.addresses environment arguments).find? (· ≠ "")

/-- The key of a caller, if one is sent, can stand in a request. -/
def KeyFits (environment : Environment) (arguments : ModelArguments) : Provider → Prop
  | .chat => ∀ key ∈ (filled? arguments.key).or (filled? environment.key),
    ∀ c ∈ key.toList, Endpoint.inHeader c = true
  | .plain => True

/-- What came of connecting is as good as the addresses are: an endpoint has a destination, and
where there is none to be had, there is no endpoint. -/
structure Destines (environment : Environment) (arguments : ModelArguments) (provider : Provider)
    (outcome : Except Error Endpoint) : Prop where
  /-- The address of an endpoint is not empty. -/
  somewhere : ∀ endpoint, outcome = .ok endpoint → endpoint.address ≠ ""
  /-- The address is the first one that is not empty, without the slashes at its end, and names the
  connection. -/
  first : ∀ endpoint, outcome = .ok endpoint →
    ∃ text, provider.address? environment arguments = some text ∧
      IsTrimmed endpoint.address text ∧ endpoint.profile.connection = endpoint.address
  /-- Without a usable address the configuration is at fault. -/
  nowhere : (∀ text ∈ provider.addresses environment arguments, ¬IsUsable text) →
    ∃ error, outcome = .error error ∧ (error = .noDestination ∨ error = .unusableKey)

variable {environment : Environment} {arguments : ModelArguments} {provider : Provider}

/-- A text is filled if it is there and not empty. -/
theorem filled?_eq_find? (text? : Option String) : filled? text? = text?.toList.find? (· ≠ "") := by
  cases text? with
  | none => rfl
  | some text =>
    by_cases empty : text = ""
    · subst empty
      rfl
    · unfold filled?
      split
      · next same => exact absurd (Option.some.inj same) empty
      · simp [empty]

/-- The first of two addresses that is filled is the first that is not empty. -/
theorem or_filled? (first second : Option String) :
    (filled? first).or (filled? second) = (first.toList ++ second.toList).find? (· ≠ "") := by
  rw [filled?_eq_find?, filled?_eq_find?, List.find?_append]

/-- The test of a key that a chat endpoint makes says whether the key fits. -/
theorem all_inHeader_iff :
    (((filled? arguments.key).or (filled? environment.key)).all fun key =>
      key.toList.all Endpoint.inHeader) = true ↔ chat.KeyFits environment arguments := by
  simp only [KeyFits, Option.all_eq_true, List.all_eq_true, Option.mem_def]

section

variable (model : String) (sampling : Sampling)

/-- Without an address no endpoint is connected to. -/
theorem connect_of_none (absent : provider.address? environment arguments = none) :
    provider.connect environment model arguments sampling = .error .noDestination := by
  cases provider with
  | chat =>
    have missing : (filled? arguments.address).or (filled? environment.address) = none :=
      (or_filled? _ _).trans absent
    rw [connect, Endpoint.Chat.connect, missing]
    rfl
  | plain => simp [address?, addresses, Endpoint.Plain.defaultAddress] at absent

variable {text : String} (given : provider.address? environment arguments = some text)

include given

/-- With an address and a key that can be sent, an endpoint is connected to, and it is at that
address without the slashes at its end. -/
theorem connect_of_some (fits : provider.KeyFits environment arguments) :
    ∃ endpoint, provider.connect environment model arguments sampling = .ok endpoint ∧
      endpoint.address = trimSlashes text := by
  cases provider with
  | chat =>
    have found : (filled? arguments.address).or (filled? environment.address) = some text :=
      (or_filled? _ _).trans given
    rw [connect, Endpoint.Chat.connect, found]
    dsimp only
    rw [if_pos (all_inHeader_iff.mpr fits)]
    exact ⟨_, rfl, rfl⟩
  | plain =>
    have found : (filled? arguments.address).or (some Endpoint.Plain.defaultAddress) = some text :=
      (or_filled? _ (some Endpoint.Plain.defaultAddress)).trans given
    rw [Option.or_some] at found
    exact ⟨_, rfl, congrArg trimSlashes (Option.some.inj found)⟩

/-- With an address and a key that cannot be sent, no endpoint is connected to. -/
theorem connect_of_not_keyFits (unfit : ¬provider.KeyFits environment arguments) :
    provider.connect environment model arguments sampling = .error .unusableKey := by
  cases provider with
  | chat =>
    have found : (filled? arguments.address).or (filled? environment.address) = some text :=
      (or_filled? _ _).trans given
    rw [connect, Endpoint.Chat.connect, found]
    dsimp only
    rw [if_neg (mt all_inHeader_iff.mp unfit)]
    rfl
  | plain => exact absurd trivial unfit

end

/-- A fault of the configuration is no endpoint without a destination. -/
theorem destines_error {error : Error} (fault : error = .noDestination ∨ error = .unusableKey) :
    provider.Destines environment arguments (.error error) where
  somewhere _ made := nomatch made
  first _ made := nomatch made
  nowhere _ := ⟨error, rfl, fault⟩

/-- An endpoint that is at the first address without the slashes at its end has a destination
exactly when that address is more than slashes. -/
theorem destines_ok_iff {text : String} {endpoint : Endpoint}
    (given : provider.address? environment arguments = some text)
    (address : endpoint.address = trimSlashes text) :
    provider.Destines environment arguments (.ok endpoint) ↔ IsUsable text := by
  constructor
  · intro destines
    rw [← trimSlashes_ne_empty_iff, ← address]
    exact destines.somewhere endpoint rfl
  · intro usable
    constructor
    case somewhere =>
      rintro _ ⟨⟩
      rw [address]
      exact (trimSlashes_ne_empty_iff text).mpr usable
    case first =>
      rintro _ ⟨⟩
      refine ⟨text, given, ?_, ?_⟩
      · rw [address]
        exact isTrimmed_trimSlashes text
      · cases endpoint <;> rfl
    case nowhere =>
      intro unusable
      exact absurd usable (unusable text (List.mem_of_find?_eq_some given))

/-- Connecting gives an endpoint exactly when there is an address that is not empty and the key can
be sent. What it gives has a destination, or says that there is none to be had, exactly when the
first such address is more than slashes. -/
theorem connect_destines_iff (environment : Environment) (model : String)
    (arguments : ModelArguments) (sampling : Sampling) (provider : Provider) :
    ((∃ endpoint, provider.connect environment model arguments sampling = .ok endpoint) ↔
        (provider.address? environment arguments).isSome = true ∧
          provider.KeyFits environment arguments) ∧
      (provider.Destines environment arguments
          (provider.connect environment model arguments sampling) ↔
        (provider.KeyFits environment arguments →
          ∀ text ∈ provider.address? environment arguments, IsUsable text)) := by
  cases given : provider.address? environment arguments with
  | none =>
    rw [connect_of_none model sampling given]
    exact ⟨by simp, fun _ _ => nofun, fun _ => destines_error (.inl rfl)⟩
  | some text =>
    by_cases fits : provider.KeyFits environment arguments
    · obtain ⟨endpoint, connected, address⟩ := connect_of_some model sampling given fits
      rw [connected, destines_ok_iff given address]
      simp [fits]
    · rw [connect_of_not_keyFits model sampling given fits]
      exact ⟨by simp [fits], fun _ fit => absurd fit fits, fun _ => destines_error (.inr rfl)⟩

/-- An address that is a slash is connected to, and nothing is left of it. -/
theorem not_connect_destines :
    ¬∀ environment model arguments sampling (provider : Provider),
      provider.Destines environment arguments
        (provider.connect environment model arguments sampling) := by
  intro destines
  have given : chat.address? {} { address := some "/" } = some "/" := by decide
  have fits : chat.KeyFits {} { address := some "/" } := nofun
  obtain ⟨endpoint, connected, address⟩ := connect_of_some "large" {} given fits
  have destined := (destines {} "large" { address := some "/" } {} chat).somewhere endpoint connected
  rw [address] at destined
  exact destined (by decide)

end Provider

end Assay
