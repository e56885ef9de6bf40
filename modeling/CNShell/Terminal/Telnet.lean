import Mathlib.Data.List.Basic

/-! The filter that takes the commands of a Telnet server out of the terminal's bytes. -/

namespace CNShell

namespace Terminal

/-- Where the filter is in the stream. -/
inductive ParserState
  | data
  | iac
  | negotiation (command : UInt8)
  | subnegotiation
  | subnegotiationIac
  deriving DecidableEq, Repr

/-- What the filter keeps between two reads. -/
structure TelnetParser where
  state : ParserState := .data
  responses : List UInt8 := []
  deriving DecidableEq, Repr

namespace TelnetParser

def respond (command option : UInt8) : List UInt8 :=
  if command = 251 then [255, 252, option]
  else if command = 253 then [255, 254, option]
  else []

def step (parser : TelnetParser) (byte : UInt8) : TelnetParser × List UInt8 :=
  match parser.state with
  | .data =>
    if byte = 255 then ({ parser with state := .iac }, [])
    else (parser, [byte])
  | .iac =>
    if byte = 255 then ({ parser with state := .data }, [255])
    else if byte = 250 then ({ parser with state := .subnegotiation }, [])
    else if 251 ≤ byte ∧ byte ≤ 254 then ({ parser with state := .negotiation byte }, [])
    else ({ parser with state := .data }, [])
  | .negotiation command => (⟨.data, parser.responses ++ respond command byte⟩, [])
  | .subnegotiation =>
    if byte = 255 then ({ parser with state := .subnegotiationIac }, [])
    else (parser, [])
  | .subnegotiationIac =>
    ({ parser with state := if byte = 240 then .data else .subnegotiation }, [])

/-- The bytes of one read: the parser after them, and what is let through. -/
def filter (parser : TelnetParser) : List UInt8 → TelnetParser × List UInt8
  | [] => (parser, [])
  | byte :: rest =>
    let next := parser.step byte
    let filtered := next.1.filter rest
    (filtered.1, next.2 ++ filtered.2)

/-- The reads of a session: what the terminal gets for them, and what is sent back after each. -/
def readStream (parser : TelnetParser) : List (List UInt8) → List UInt8 × List UInt8
  | [] => ([], [])
  | chunk :: rest =>
    let filtered := parser.filter chunk
    -- The responses are taken out of the parser and written before the next read.
    let later := { filtered.1 with responses := [] }.readStream rest
    (filtered.2 ++ later.1, filtered.1.responses ++ later.2)

section Chunks

variable {parser : TelnetParser}

theorem filter_append (parser : TelnetParser) (first second : List UInt8) :
    parser.filter (first ++ second) =
      (((parser.filter first).1.filter second).1,
        (parser.filter first).2 ++ ((parser.filter first).1.filter second).2) := by
  -- The parser's state is all that the first read leaves for the second.
  induction first generalizing parser with
  | nil => rfl
  | cons byte rest ih =>
    simp only [List.cons_append, filter, ih, List.append_assoc]

theorem step_responses (state : ParserState) (before : List UInt8) (byte : UInt8) :
    step ⟨state, before⟩ byte =
      (⟨(step ⟨state, []⟩ byte).1.state, before ++ (step ⟨state, []⟩ byte).1.responses⟩,
        (step ⟨state, []⟩ byte).2) := by
  -- Only a negotiation adds responses, and it adds them at the end.
  cases state with
  | data => by_cases escape : byte = 255 <;> simp [step, escape]
  | iac =>
    simp only [step]
    split
    · simp
    · split
      · simp
      · split <;> simp
  | negotiation command => simp [step]
  | subnegotiation => by_cases escape : byte = 255 <;> simp [step, escape]
  | subnegotiationIac => simp [step]

theorem filter_responses (state : ParserState) (before input : List UInt8) :
    filter ⟨state, before⟩ input =
      (⟨(filter ⟨state, []⟩ input).1.state, before ++ (filter ⟨state, []⟩ input).1.responses⟩,
        (filter ⟨state, []⟩ input).2) := by
  -- The induction has to start from any responses, since each byte may add some.
  induction input generalizing state before with
  | nil => simp [filter]
  | cons byte rest ih =>
    have split := step_responses state before byte
    simp only [filter, split]
    rw [ih, ih (step ⟨state, []⟩ byte).1.state (step ⟨state, []⟩ byte).1.responses]
    simp only [List.append_assoc]

theorem readStream_eq (state : ParserState) (chunks : List (List UInt8)) :
    readStream ⟨state, []⟩ chunks =
      ((filter ⟨state, []⟩ chunks.flatten).2, (filter ⟨state, []⟩ chunks.flatten).1.responses) := by
  induction chunks generalizing state with
  | nil => rfl
  | cons chunk rest ih =>
    -- The rest is filtered with the responses of this read, or without them after they are taken.
    have kept := filter_responses (filter ⟨state, []⟩ chunk).1.state
      (filter ⟨state, []⟩ chunk).1.responses rest.flatten
    simp only [List.flatten_cons, readStream, filter_append, ih]
    rw [kept]

end Chunks

end TelnetParser

inductive Verb
  | will
  | wont
  | doIt
  | dont
  deriving DecidableEq, Repr

def Verb.code : Verb → UInt8
  | .will => 251
  | .wont => 252
  | .doIt => 253
  | .dont => 254

/-- What a Telnet server sends. -/
inductive TelnetToken
  /-- Data of the application. -/
  | data (bytes : List UInt8)
  /-- A command of two bytes. -/
  | command (code : UInt8) (plain : code < 250)
  | negotiate (verb : Verb) (option : UInt8)
  /-- The option of a subnegotiation and its parameters. -/
  | subnegotiation (payload : List UInt8)

namespace TelnetToken

/-- Bytes in which every 255 is doubled. -/
def escape (bytes : List UInt8) : List UInt8 := bytes.flatMap fun byte => if byte = 255 then [255, 255] else [byte]

def encode : TelnetToken → List UInt8
  | data bytes => escape bytes
  | command code _ => [255, code]
  | negotiate verb option => [255, verb.code, option]
  | subnegotiation payload => [255, 250] ++ escape payload ++ [255, 240]

/-- What the terminal is to get of a token. -/
def application : TelnetToken → List UInt8
  | data bytes => bytes
  | _ => []

/-- The refusal of an option: an offer is answered with WONT and a request with DONT. -/
def refusal : TelnetToken → List UInt8
  | negotiate .will option => [255, Verb.wont.code, option]
  | negotiate .doIt option => [255, Verb.dont.code, option]
  | _ => []

end TelnetToken

section Tokens

open TelnetParser TelnetToken

variable {answered : List UInt8}

theorem filter_escape (bytes : List UInt8) :
    filter ⟨.data, answered⟩ (escape bytes) = (⟨.data, answered⟩, bytes) := by
  -- A doubled 255 leads to the command state and back.
  induction bytes with
  | nil => rfl
  | cons byte rest ih =>
    have unfolded : escape (byte :: rest) = (if byte = 255 then [255, 255] else [byte]) ++ escape rest := rfl
    rw [unfolded, filter_append]
    by_cases doubled : byte = 255
    · simp [doubled, filter, step, ih]
    · simp [doubled, filter, step, ih]

theorem filter_payload (payload : List UInt8) :
    filter ⟨.subnegotiation, answered⟩ (escape payload) = (⟨.subnegotiation, answered⟩, []) := by
  -- The second 255 of a doubled one leads back into the subnegotiation.
  induction payload with
  | nil => rfl
  | cons byte rest ih =>
    have unfolded : escape (byte :: rest) = (if byte = 255 then [255, 255] else [byte]) ++ escape rest := rfl
    rw [unfolded, filter_append]
    by_cases doubled : byte = 255
    · simp [doubled, filter, step, ih]
    · simp [doubled, filter, step, ih]

theorem filter_encode (token : TelnetToken) :
    filter ⟨.data, answered⟩ token.encode = (⟨.data, answered ++ token.refusal⟩, token.application) := by
  cases token with
  | data bytes => simpa [encode, refusal, application] using filter_escape bytes
  | command code plain =>
    -- A code below 250 is none of those that lead on.
    have below : code.toNat < 250 := plain
    have other : code ≠ 255 ∧ code ≠ 250 ∧ ¬(251 ≤ code ∧ code ≤ 254) := by
      refine ⟨fun same => ?_, fun same => ?_, fun range => ?_⟩
      · subst same; exact absurd plain (by decide)
      · subst same; exact absurd plain (by decide)
      · have low : 251 ≤ code.toNat := range.1
        omega
    simp [encode, refusal, application, filter, step, other.1, other.2.1, other.2.2]
  | negotiate verb option => cases verb <;> simp [encode, refusal, application, filter, step, respond, Verb.code]
  | subnegotiation payload =>
    rw [encode, filter_append, filter_append]
    have opened : filter ⟨.data, answered⟩ [255, 250] = (⟨.subnegotiation, answered⟩, []) := by
      simp [filter, step]
    rw [opened, filter_payload]
    simp [filter, step, refusal, application]

theorem filter_encodes (tokens : List TelnetToken) :
    filter ⟨.data, answered⟩ (tokens.flatMap encode) =
      (⟨.data, answered ++ tokens.flatMap refusal⟩, tokens.flatMap application) := by
  -- Each token leaves the parser where the next one starts.
  induction tokens generalizing answered with
  | nil => simp [filter]
  | cons token rest ih =>
    rw [List.flatMap_cons, filter_append, filter_encode, ih]
    simp

/-- However the tokens are cut, the terminal gets their data and the server one refusal for each request. -/
theorem readStream_tokens (tokens : List TelnetToken) (chunks : List (List UInt8))
    (cut : chunks.flatten = tokens.flatMap encode) :
    readStream {} chunks = (tokens.flatMap application, tokens.flatMap refusal) := by
  show readStream ⟨.data, []⟩ chunks = _
  rw [readStream_eq, cut, filter_encodes]
  simp

/-- An offer of echo and escaped data, cut inside the negotiation and inside the escape. -/
theorem readStream_offer : readStream {} [[255, 251], [1, 111, 255], [255]] = ([111, 255], [255, 252, 1]) :=
  readStream_tokens [.negotiate .will 1, .data [111, 255]] [[255, 251], [1, 111, 255], [255]] (by decide)

end Tokens

end Terminal

end CNShell
