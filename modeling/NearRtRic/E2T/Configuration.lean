import Mathlib.Tactic
import NearRtRic.E2T.ConfigFile
import NearRtRic.Library.Buffer

/-! The parameters that are read from the configuration file, and the buffers they are put in. -/

namespace NearRtRic.E2T.Configuration

open Buffer CInteger ConfigFile

def VOLUME_URL_SIZE : Nat := 256
def KA_MESSAGE_SIZE : Nat := 2048

/-- What `getenv` points to. -/
abbrev CString := { text : List Char // Plain text }

/-- The members of `sctp_params_t` that are set, and what is handed to the logger. -/
structure SctpParams where
  rmrPort : Nat
  sctpPort : Nat
  ka_message : List Char
  ka_message_length : Int
  rmrAddress : List Char
  volume : List Char
  myIP : List Char
  fqdn : List Char
  podName : List Char
  trace : Bool
  epollTimeOut : Int
  prometheusPort : List Char
  tmpLogFilespec : List Char
  jsonTrace : Bool

/-- What `snprintf` returns: the length of the whole text, if an `int` holds it. -/
def printed (text : List Char) : Int :=
  if text.length < 2 ^ 31 then text.length else -1

/-! The format of `ka_message`, between its conversions. -/

def kaAddress : List Char := "\x7b\"address\": \"".toList
def kaFqdn : List Char := "\",\"fqdn\": \"".toList
def kaPodName : List Char := "\",\"pod_name\": \"".toList
def kaEnd : List Char := "\"\x7d".toList

def decimalText (value : Nat) : List Char := Nat.toDigits 10 value

def keepAlive (myIP : List Char) (rmrPort : Nat) (fqdn podName : List Char) : List Char :=
  kaAddress ++ string myIP ++ [':'] ++ decimalText rmrPort ++ kaFqdn ++ string fqdn ++
    kaPodName ++ string podName ++ kaEnd

def logFileName : List Char := "/tmp/E2Term_%Y-%m-%d_%H-%M-%S.%N.tmpStr".toList

/-- Every value but `start` turns the trace off. -/
def traceSet (tmpStr : List Char) : Bool :=
  if tmpStr.map Char.toLower = "start".toList then true
  else if tmpStr.map Char.toLower = "stop".toList then false
  else false

/-- What is left in the members once every check is passed. The arrays are written before they
are read; they stand here with zeros. -/
def configured (entries : Entries) (podName : List Char) : SctpParams :=
  let rmrPort := toUnsigned 16 (getIntValue entries "nano".toList)
  let volume := getStringValue entries "volume".toList
  let myIP := getStringValue entries "local-ip".toList
  let fqdn := getStringValue entries "external-fqdn".toList
  let trace := traceSet (getStringValue entries "trace".toList)
  let prometheusPort := getStringValue entries "prometheusPort".toList
  let message := keepAlive myIP rmrPort fqdn podName
  { rmrPort := rmrPort
    sctpPort := toUnsigned 16 (getIntValue entries "sctp-port".toList)
    ka_message := snprintf (zeroed KA_MESSAGE_SIZE) KA_MESSAGE_SIZE message
    ka_message_length := printed message
    rmrAddress := snprintf (zeroed 256) 256 (decimalText rmrPort)
    volume := snprintf (zeroed VOLUME_URL_SIZE) VOLUME_URL_SIZE (string volume)
    myIP := myIP
    fqdn := fqdn
    podName := podName
    trace := trace
    epollTimeOut := -1
    prometheusPort := if prometheusPort.length ≠ 0 then prometheusPort else "8088".toList
    tmpLogFilespec :=
      strcat (snprintf (zeroed VOLUME_URL_SIZE) VOLUME_URL_SIZE (string volume)) logFileName
    jsonTrace := trace }

/-- `none` where it returns -1. -/
def buildConfiguration (getenv : List Char → Option CString) (configFile : Option (List Char)) :
    Option SctpParams :=
  match configFile with
  | none => none
  | some text =>
      let conf := openConfigFile (some text)
      let pod := getStringValue conf.2 "pod_name".toList
      if text.length > 2048 then none
      else if conf.1 = -1 then none
      else if getIntValue conf.2 "nano".toList = -1 then none
      else if (getStringValue conf.2 "volume".toList).length = 0 then none
      else if (getStringValue conf.2 "local-ip".toList).length = 0 then none
      else if getIntValue conf.2 "sctp-port".toList = -1 then none
      else if (getStringValue conf.2 "external-fqdn".toList).length = 0 then none
      else if pod.length = 0 then none
      else
        match getenv (string pod) with
        | none => none
        | some podName =>
            if podName.1.length = 0 then none
            else some (configured conf.2 podName.1)

/-- So many bytes of an array, the count converted to `size_t`; `none` where that reads behind
the array. -/
def bytesOf (memory : List Char) (count : Int) : Option (List Char) :=
  if toUnsigned 64 count ≤ memory.length then some (memory.take (toUnsigned 64 count)) else none

/-- `rmr_bytes2payload(msg, ka_message, ka_message_length)` in `sendTermInit`. -/
def termInitPayload (sctpParams : SctpParams) : Option (List Char) :=
  bytesOf sctpParams.ka_message sctpParams.ka_message_length

/-- `memory[index] = NUL`; the memory gets longer where the index is behind its end. -/
def terminate (memory : List Char) (index : Nat) : List Char :=
  memory.take index ++ [NUL] ++ memory.drop (index + 1)

def listenerKaMessage (params : SctpParams) : Option (List Char) :=
  (bytesOf params.ka_message params.ka_message_length).map fun bytes =>
    terminate (memcpy (zeroed KA_MESSAGE_SIZE) bytes) (toUnsigned 64 params.ka_message_length)

def valueOf (text : List Char) (key : String) : List Char :=
  getStringValue (openConfigFile (some text)).2 key.toList

def keepAliveOf (params : SctpParams) : List Char :=
  keepAlive params.myIP params.rmrPort params.fqdn params.podName

/-- The ports are those that are written, and no array is left when it is filled or read. -/
structure FaithfulAndFits (text : List Char) (params : SctpParams) : Prop where
  nano : decimalInteger (valueOf text "nano") = some (params.rmrPort : Int)
  sctpPort : decimalInteger (valueOf text "sctp-port") = some (params.sctpPort : Int)
  logFile : params.tmpLogFilespec.length ≤ VOLUME_URL_SIZE
  length : params.ka_message_length < KA_MESSAGE_SIZE
  payload : termInitPayload params = some (keepAliveOf params)
  listener : ∃ memory, listenerKaMessage params = some memory ∧
    memory.length ≤ KA_MESSAGE_SIZE ∧ string memory = keepAliveOf params

def IsPort (value : List Char) (port : Nat) : Prop :=
  decimalInteger value = some (port : Int) ∧ port ≤ 65535

/-- Ports in range, a volume that leaves room for the name of the log file, and values that fit
into the keep-alive message around them. -/
structure Moderate (getenv : List Char → Option CString) (text : List Char) : Prop where
  sctpPort : ∃ port, IsPort (valueOf text "sctp-port") port
  volume : (string (valueOf text "volume")).length ≤ 216
  message : ∃ port, IsPort (valueOf text "nano") port ∧
    ∀ podName, getenv (string (valueOf text "pod_name")) = some podName →
      (string (valueOf text "local-ip")).length + (decimalText port).length +
        (string (valueOf text "external-fqdn")).length + podName.1.length + 42 < KA_MESSAGE_SIZE

theorem buildConfiguration_accepts {getenv : List Char → Option CString} {text : List Char}
    {params : SctpParams} (accepted : buildConfiguration getenv (some text) = some params) :
    getIntValue (openConfigFile (some text)).2 "nano".toList ≠ -1 ∧
      getIntValue (openConfigFile (some text)).2 "sctp-port".toList ≠ -1 ∧
      ∃ podName, getenv (string (valueOf text "pod_name")) = some podName ∧
        params = configured (openConfigFile (some text)).2 podName.1 := by
  simp only [buildConfiguration, Option.ite_none_left_eq_some] at accepted
  rcases accepted with ⟨-, -, nano, -, -, sctpPort, -, -, environment⟩
  split at environment
  · cases environment
  next podName found =>
  rcases Option.ite_none_left_eq_some.mp environment with ⟨-, same⟩
  exact ⟨nano, sctpPort, podName, found, (Option.some.inj same).symm⟩

/-- A value that is read as an `int`, and that is not refused, is the port that is written just
when it is written as one. -/
theorem port_faithful_iff {entries : Entries} {key : List Char}
    (accepted : getIntValue entries key ≠ -1) (port : Nat) :
    IsPort (getStringValue entries key) port ↔
      decimalInteger (getStringValue entries key) = some (port : Int) ∧
        toUnsigned 16 (getIntValue entries key) = port := by
  rw [IsPort]
  refine and_congr_right fun whole => ?_
  cases found : entries key with
  | none => simp [getIntValue, found] at accepted
  | some value =>
      rw [getStringValue, found, Option.getD_some] at whole
      simp only [getIntValue, found]
      constructor
      · intro small
        have read : strtol value = port := strtol_of_decimalInteger whole (by omega) (by omega)
        have kept : toSigned 32 (port : Int) = port :=
          toSigned_of_range (by omega) (by omega)
        have cast : (toUnsigned 16 (port : Int) : Int) = port :=
          toUnsigned_of_range (by omega) (by omega)
        rw [read, kept]
        exact_mod_cast cast
      · intro cast
        have bound := toUnsigned_lt 16 (toSigned 32 (strtol value))
        omega

theorem plain_decimalText (value : Nat) : Plain (decimalText value) := by
  rintro char member rfl
  have digit : NUL.isDigit = true := Nat.isDigit_of_mem_toDigits (by decide) (by decide) member
  exact absurd digit (by decide)

theorem plain_keepAlive (myIP : List Char) (rmrPort : Nat) (fqdn podName : List Char) :
    Plain (keepAlive myIP rmrPort fqdn podName) := by
  have pieces : Plain kaAddress ∧ Plain [':'] ∧ Plain kaFqdn ∧ Plain kaPodName ∧ Plain kaEnd := by
    decide +kernel
  rcases pieces with ⟨address, colon, fqdnName, podNameName, ending⟩
  have upToPort : Plain (kaAddress ++ string myIP ++ [':'] ++ decimalText rmrPort) :=
    ((address.append (plain_string _)).append colon).append (plain_decimalText _)
  have upToFqdn := (upToPort.append fqdnName).append (plain_string fqdn)
  exact ((upToFqdn.append podNameName).append (plain_string podName)).append ending

theorem keepAlive_length (myIP : List Char) (rmrPort : Nat) (fqdn podName : List Char) :
    (keepAlive myIP rmrPort fqdn podName).length =
      (string myIP).length + (decimalText rmrPort).length + (string fqdn).length +
        (string podName).length + 42 := by
  have pieces : kaAddress.length = 13 ∧ kaFqdn.length = 11 ∧ kaPodName.length = 15 ∧
      kaEnd.length = 2 := by decide +kernel
  rw [keepAlive]
  simp only [List.length_append, List.length_singleton, pieces]
  omega

theorem snprintf_of_fits {message : List Char} (fits : message.length < KA_MESSAGE_SIZE) :
    snprintf (zeroed KA_MESSAGE_SIZE) KA_MESSAGE_SIZE message = padded KA_MESSAGE_SIZE message := by
  rw [snprintf_zeroed (by decide) (le_refl _), List.take_of_length_le (by omega)]

theorem printed_of_fits {message : List Char} (fits : message.length < KA_MESSAGE_SIZE) :
    printed message = message.length ∧ toUnsigned 64 (printed message) = message.length := by
  have small : message.length < 2 ^ 31 := fits.trans (by decide)
  have whole : printed message = message.length := if_pos small
  have cast : (toUnsigned 64 (message.length : Int) : Int) = message.length :=
    toUnsigned_of_range (by omega) (by omega)
  rw [whole]
  exact ⟨rfl, by exact_mod_cast cast⟩

theorem bytesOf_of_fits {message : List Char} (fits : message.length < KA_MESSAGE_SIZE) :
    bytesOf (snprintf (zeroed KA_MESSAGE_SIZE) KA_MESSAGE_SIZE message) (printed message) =
      some message := by
  have room : message.length ≤ (padded KA_MESSAGE_SIZE message).length := by
    rw [padded, List.length_append]
    omega
  rw [snprintf_of_fits fits, bytesOf, (printed_of_fits fits).2, if_pos room, padded,
    List.take_left]

/-- A length that is small is that of a message that fits: where `snprintf` fails, the payload is
read behind the array. -/
theorem fits_of_printed {message : List Char} (short : printed message < KA_MESSAGE_SIZE)
    (read : bytesOf (snprintf (zeroed KA_MESSAGE_SIZE) KA_MESSAGE_SIZE message)
      (printed message) = some message) : message.length < KA_MESSAGE_SIZE := by
  by_cases small : message.length < 2 ^ 31
  · rw [printed, if_pos small] at short
    exact_mod_cast short
  · have failed : printed message = -1 := if_neg small
    have behind : ¬ toUnsigned 64 (-1) ≤ KA_MESSAGE_SIZE := by decide
    rw [failed, bytesOf, snprintf_length (by decide), if_neg behind] at read
    cases read

theorem terminate_padded {message : List Char} (fits : message.length < KA_MESSAGE_SIZE) :
    terminate (padded KA_MESSAGE_SIZE message) message.length =
      padded KA_MESSAGE_SIZE message := by
  have zeros : zeroed (KA_MESSAGE_SIZE - message.length) =
      NUL :: zeroed (KA_MESSAGE_SIZE - (message.length + 1)) := by
    rw [zeroed, zeroed, ← List.replicate_succ]
    congr 1
    omega
  have behind : (padded KA_MESSAGE_SIZE message).drop (message.length + 1) =
      zeroed (KA_MESSAGE_SIZE - (message.length + 1)) := by
    rw [padded, zeros, List.drop_append, List.drop_of_length_le (by omega)]
    simp
  calc
    terminate (padded KA_MESSAGE_SIZE message) message.length =
        message ++ [NUL] ++ zeroed (KA_MESSAGE_SIZE - (message.length + 1)) := by
      rw [terminate, behind, padded, List.take_left]
    _ = message ++ zeroed (KA_MESSAGE_SIZE - message.length) := by rw [zeros]; simp
    _ = padded KA_MESSAGE_SIZE message := rfl

theorem listener_of_fits {params : SctpParams} {message : List Char} (plain : Plain message)
    (fits : message.length < KA_MESSAGE_SIZE)
    (array : params.ka_message = snprintf (zeroed KA_MESSAGE_SIZE) KA_MESSAGE_SIZE message)
    (length : params.ka_message_length = printed message) :
    ∃ memory, listenerKaMessage params = some memory ∧ memory.length ≤ KA_MESSAGE_SIZE ∧
      string memory = message := by
  have copied : memcpy (zeroed KA_MESSAGE_SIZE) message = padded KA_MESSAGE_SIZE message := by
    rw [← padded_nil, memcpy_padded (by simp) fits.le]
  refine ⟨padded KA_MESSAGE_SIZE message, ?_, ?_, string_padded plain⟩
  · rw [listenerKaMessage, array, length, bytesOf_of_fits fits, Option.map_some,
      (printed_of_fits fits).2, copied, terminate_padded fits]
  · rw [padded, List.length_append, zeroed_length]
    omega

theorem logFile_fits_iff (volume : List Char) :
    (strcat (snprintf (zeroed VOLUME_URL_SIZE) VOLUME_URL_SIZE (string volume))
      logFileName).length ≤ VOLUME_URL_SIZE ↔ (string volume).length ≤ 216 := by
  have suffix : logFileName.length = 39 := by decide +kernel
  have size : (snprintf (zeroed VOLUME_URL_SIZE) VOLUME_URL_SIZE (string volume)).length =
      VOLUME_URL_SIZE := snprintf_length (by decide) _
  rw [strcat, memcpy_length, size, string_snprintf (plain_string volume), List.length_append,
    List.length_append, suffix, List.length_take, List.length_singleton, VOLUME_URL_SIZE]
  omega

theorem configured_ka_message (entries : Entries) (podName : List Char) :
    (configured entries podName).ka_message = snprintf (zeroed KA_MESSAGE_SIZE) KA_MESSAGE_SIZE
      (keepAliveOf (configured entries podName)) := by
  simp only [configured, keepAliveOf]

theorem configured_ka_message_length (entries : Entries) (podName : List Char) :
    (configured entries podName).ka_message_length =
      printed (keepAliveOf (configured entries podName)) := by
  simp only [configured, keepAliveOf]

theorem string_of_cstring (value : CString) : string value.1 = value.1 :=
  List.takeWhile_eq_self_iff.mpr (by simpa [Plain] using value.2)

theorem configured_keepAlive_length (text : List Char) (podName : CString) :
    (keepAliveOf (configured (openConfigFile (some text)).2 podName.1)).length =
      (string (valueOf text "local-ip")).length +
        (decimalText (toUnsigned 16
          (getIntValue (openConfigFile (some text)).2 "nano".toList))).length +
        (string (valueOf text "external-fqdn")).length + podName.1.length + 42 := by
  rw [keepAliveOf, keepAlive_length]
  change _ + _ + _ + (string podName.1).length + 42 = _
  rw [string_of_cstring]
  rfl

section Configured

variable {getenv : List Char → Option CString} {text : List Char} {podName : CString}

theorem moderate_of_faithfulAndFits
    (found : getenv (string (valueOf text "pod_name")) = some podName)
    (nano : getIntValue (openConfigFile (some text)).2 "nano".toList ≠ -1)
    (sctpPort : getIntValue (openConfigFile (some text)).2 "sctp-port".toList ≠ -1)
    (good : FaithfulAndFits text (configured (openConfigFile (some text)).2 podName.1)) :
    Moderate getenv text := by
  have rmr := (port_faithful_iff nano _).mpr ⟨good.nano, rfl⟩
  have sctp := (port_faithful_iff sctpPort _).mpr ⟨good.sctpPort, rfl⟩
  have short := good.length
  have read := good.payload
  rw [configured_ka_message_length] at short
  rw [termInitPayload, configured_ka_message, configured_ka_message_length] at read
  refine ⟨⟨_, sctp⟩, (logFile_fits_iff _).mp good.logFile, _, rmr, ?_⟩
  intro other same
  rw [found, Option.some.injEq] at same
  subst same
  calc
    _ = (keepAliveOf (configured (openConfigFile (some text)).2 podName.1)).length :=
      (configured_keepAlive_length text podName).symm
    _ < KA_MESSAGE_SIZE := fits_of_printed short read

theorem faithfulAndFits_of_moderate
    (found : getenv (string (valueOf text "pod_name")) = some podName)
    (nano : getIntValue (openConfigFile (some text)).2 "nano".toList ≠ -1)
    (sctpPort : getIntValue (openConfigFile (some text)).2 "sctp-port".toList ≠ -1)
    (moderate : Moderate getenv text) :
    FaithfulAndFits text (configured (openConfigFile (some text)).2 podName.1) := by
  rcases moderate with ⟨⟨sctp, isSctp⟩, volume, rmr, isRmr, message⟩
  have rmrPort := ((port_faithful_iff nano rmr).mp isRmr).2
  have readSctp := ((port_faithful_iff sctpPort sctp).mp isSctp).2
  have array := configured_ka_message (openConfigFile (some text)).2 podName.1
  have length := configured_ka_message_length (openConfigFile (some text)).2 podName.1
  have fits : (keepAliveOf (configured (openConfigFile (some text)).2 podName.1)).length <
      KA_MESSAGE_SIZE := by
    rw [configured_keepAlive_length, rmrPort]
    exact message podName found
  exact {
    nano := by
      rw [isRmr.1]
      exact congrArg some (congrArg Nat.cast rmrPort.symm)
    sctpPort := by
      rw [isSctp.1]
      exact congrArg some (congrArg Nat.cast readSctp.symm)
    logFile := (logFile_fits_iff _).mpr volume
    length := by
      rw [length, (printed_of_fits fits).1]
      exact_mod_cast fits
    payload := by
      rw [termInitPayload, array, length]
      exact bytesOf_of_fits fits
    listener := listener_of_fits (plain_keepAlive _ _ _ _) fits array length }

end Configured

/-- An accepted configuration has the ports that are written and fits its arrays just when it is
moderate: nothing in the code asks for that. -/
theorem configuration_faithful_and_fits_iff {getenv : List Char → Option CString}
    {text : List Char} {params : SctpParams}
    (accepted : buildConfiguration getenv (some text) = some params) :
    FaithfulAndFits text params ↔ Moderate getenv text := by
  rcases buildConfiguration_accepts accepted with ⟨nano, sctpPort, podName, found, rfl⟩
  exact ⟨moderate_of_faithfulAndFits found nano sctpPort,
    faithfulAndFits_of_moderate found nano sctpPort⟩

/-- The lines behind the port, as in the file that is delivered. -/
def delivered (nano : String) : List Char :=
  ("nano=" ++ nano ++ "\nvolume=log\nlocal-ip=127.0.0.1\nexternal-fqdn=e2t.com\n" ++
    "pod_name=E2TERM_POD_NAME\nsctp-port=36422\ntrace=stop\n").toList

def podEnvironment (name : List Char) : Option CString :=
  if name = "E2TERM_POD_NAME".toList then some ⟨"e2term".toList, by decide⟩ else none

theorem delivered_configuration_moderate :
    ∃ params, buildConfiguration podEnvironment (some (delivered "38000")) = some params ∧
      params.rmrPort = 38000 ∧
      (FaithfulAndFits (delivered "38000") params ↔ Moderate podEnvironment (delivered "38000")) := by
  have port : (buildConfiguration podEnvironment (some (delivered "38000"))).map
      SctpParams.rmrPort = some 38000 := by decide +kernel
  rcases Option.map_eq_some_iff.mp port with ⟨params, accepted, read⟩
  exact ⟨params, accepted, read, configuration_faithful_and_fits_iff accepted⟩

/-- A port that an `uint16_t` does not hold is accepted as another. -/
theorem large_port_accepted :
    ∃ params, buildConfiguration podEnvironment (some (delivered "70000")) = some params ∧
      decimalInteger (valueOf (delivered "70000") "nano") = some 70000 ∧ params.rmrPort = 4464 ∧
      ¬ FaithfulAndFits (delivered "70000") params := by
  have port : (buildConfiguration podEnvironment (some (delivered "70000"))).map
      SctpParams.rmrPort = some 4464 := by decide +kernel
  have isWritten : decimalInteger (valueOf (delivered "70000") "nano") = some 70000 := by
    decide +kernel
  rcases Option.map_eq_some_iff.mp port with ⟨params, accepted, read⟩
  refine ⟨params, accepted, isWritten, read, ?_⟩
  intro good
  have same := good.nano
  rw [isWritten, read] at same
  exact absurd same (by decide)

end NearRtRic.E2T.Configuration
