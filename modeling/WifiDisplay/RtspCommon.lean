import WifiDisplay.TextSplit
import Mathlib.Data.BitVec

/-! `RtspCommon`: from the text of an RTSP message to its first line, its header
fields and its body lines. -/

namespace WifiDisplay

/-- The bytes of a `std::string`, each as the character of its code. -/
abbrev Text := List Char

/-- An `unordered_map` of header fields in the order of their insertion. -/
abbrev Tokens := List (Text × Text)

def rtspVersionText : Text := "RTSP/1.0".toList
def rtspCrlf : Text := ['\r', '\n']
def rtspSp : Text := [' ']
def rtspTokenCseq : Text := "CSeq".toList
def rtspTokenDate : Text := "Date".toList
def rtspTokenContentType : Text := "Content-Type".toList
def rtspTokenContentLength : Text := "Content-Length".toList
def rtspTokenSession : Text := "Session".toList
def rtspTokenUa : Text := "User-Agent".toList
def rtspTokenWwwAuthenticate : Text := "WWW-Authenticate".toList
def rtspTokenServer : Text := "Server".toList

def rtspMethods : List Text :=
  ["OPTIONS".toList, "DESCRIBE".toList, "ANNOUNCE".toList, "SETUP".toList, "PLAY".toList,
    "PAUSE".toList, "TEARDOWN".toList, "GET_PARAMETER".toList, "SET_PARAMETER".toList,
    "REDIRECT".toList, "RECORD".toList]

def rtspMessageMaxLines : Nat := 1440

inductive RtspErrorType where
  | ok
  | invalidMessage
  | invalidMethod
  | incompleteMessage
  deriving DecidableEq, Repr

structure RtspError where
  code : RtspErrorType := .ok
  info : Text := "ok".toList
  deriving DecidableEq, Repr

def invalidMessageError : RtspError := ⟨.invalidMessage, "invalid message".toList⟩

namespace Tokens

def find? (t : Tokens) (key : Text) : Option Text := t.lookup key

/-- The first value of a key stays. -/
def emplace (t : Tokens) (key value : Text) : Tokens :=
  if (t.find? key).isSome then t else t ++ [(key, value)]

end Tokens

def isSpace (c : Char) : Bool := c = ' ' || (9 ≤ c.toNat && c.toNat ≤ 13)

def digitsValue (s : Text) : Nat :=
  (s.takeWhile Char.isDigit).foldl (fun n c => 10 * n + (c.toNat - '0'.toNat)) 0

/-- `strtol` with base 10 on a 64 bit `long`, cast to `int`; also `atoi`. -/
def atoi (s : Text) : Int :=
  let value : Int := match s.dropWhile isSpace with
    | '-' :: r => -(digitsValue r)
    | '+' :: r => digitsValue r
    | r => digitsValue r
  (BitVec.ofInt 32 (max (-2 ^ 63) (min value (2 ^ 63 - 1)))).toInt

namespace RtspCommon

def split (s delimiter : Text) : List Text := TextSplit.split delimiter s

def verifyMethod (method : Text) : Bool := rtspMethods.contains method

def trim (s : Text) : Text :=
  if s.all (· = ' ') then s
  else ((s.dropWhile (· = ' ')).reverse.dropWhile (· = ' ')).reverse

/-- The name and the value on a line of the header, if it is a field. -/
def lineField (line : Text) : Option (Text × Text) :=
  let index := line.idxOf ':'
  if line.length > 3 ∧ index ≠ 0 ∧ index < line.length ∧ index + 1 ≠ line.length then
    some (trim (line.take index), trim (line.drop (index + 1)))
  else none

/-- A challenge that is no digest is not kept. -/
def isForeignChallenge (line : Text) : Bool :=
  match lineField line with
  | none => false
  | some (token, value) =>
    token = rtspTokenWwwAuthenticate && (TextSplit.breakOn "Digest".toList value).isNone

def addLine (header : Tokens) (line : Text) : Tokens :=
  match lineField line with
  | none => header
  | some (token, value) => Tokens.emplace header token value

/-- The loop over the lines from number `i` on. The `continue` behind a challenge that is no
digest also leaves out the test of the limit. -/
def parseLines (i : Nat) (header : Tokens) : List Text → Tokens
  | [] => header
  | line :: lines =>
    if isForeignChallenge line then parseLines (i + 1) header lines
    else if i > rtspMessageMaxLines then addLine header line
    else parseLines (i + 1) (addLine header line) lines

def parseHeader (lines : List Text) (header : Tokens) : Tokens := parseLines 1 header (lines.drop 1)

/-- `substr(0, length)`; a negative length counts as the largest one. -/
def bodyText (text : Text) (length : Int) : Text := if length < 0 then text else text.take length.toNat

structure ParsedMessage where
  error : RtspError := {}
  firstLine : List Text := []
  header : Tokens
  body : List Text
  deriving DecidableEq, Repr

def hasBodyFields (header : Tokens) : Bool :=
  (Tokens.find? header rtspTokenContentType).isSome && (Tokens.find? header rtspTokenContentLength).isSome

/-- The part of `ParseMessage` after the header: `pieces` is `messageV` without
its first element. -/
def parseBody (pieces : List Text) (header : Tokens) (body : List Text) : RtspError × List Text :=
  let contentType := (Tokens.find? header rtspTokenContentType).getD []
  let length := atoi ((Tokens.find? header rtspTokenContentLength).getD [])
  if pieces.length = 1 ∧ hasBodyFields header then
    let text := pieces.headD []
    if length = 0 then ({}, body)
    else if length > text.length then
      (⟨.incompleteMessage, "body length < Content-Length".toList⟩, body)
    else if ¬ "text/".toList.isPrefixOf contentType ∧ contentType ≠ "application/sdp".toList then
      (⟨.invalidMessage, "unsupported content".toList⟩, body)
    else ({}, body ++ (split (bodyText text length) rtspCrlf).filter (· ≠ []))
  else if pieces ≠ [] then
    (⟨.ok, TextSplit.join (rtspCrlf ++ rtspCrlf) pieces ++ ['$']⟩, body)
  else ({}, body)

def parseMessage (message : Text) (header : Tokens) (body : List Text) : ParsedMessage :=
  let messageV := split message (rtspCrlf ++ rtspCrlf)
  let lines := split (messageV.headD []) rtspCrlf
  if lines.length < 2 then { error := invalidMessageError, header, body }
  else
    let header := parseHeader lines header
    let (error, body) := parseBody (messageV.drop 1) header body
    { error, firstLine := split (lines.headD []) rtspSp, header, body }

end RtspCommon

structure RtspRequest where
  cSeq : Int := 0
  method : Text := []
  session : Text := []
  url : Text := ['*']
  userAgent : Text := "KaihongOS".toList
  tokens : Tokens := []
  body : List Text := []
  deriving DecidableEq, Repr

namespace RtspRequest

def clear (r : RtspRequest) : RtspRequest := { r with tokens := [], body := [] }

/-- `Parse` after the call of `ParseMessage`. -/
def take (r : RtspRequest) (result : RtspCommon.ParsedMessage) : RtspRequest × RtspError :=
  let r := { r with tokens := result.header, body := result.body }
  if result.error.code ≠ .ok then (r, result.error)
  else if result.firstLine.length < 2 ∨ result.header = [] then (r.clear, invalidMessageError)
  else
    match result.firstLine with
    | [method, url, version] =>
      if version ≠ rtspVersionText then (r.clear, invalidMessageError)
      else if ¬ RtspCommon.verifyMethod method then
        (r.clear, ⟨.invalidMethod, "invalid method".toList⟩)
      else
        ({ r with
            method, url
            cSeq := ((Tokens.find? r.tokens rtspTokenCseq).map atoi).getD r.cSeq
            userAgent := (Tokens.find? r.tokens rtspTokenUa).getD r.userAgent
            session := (Tokens.find? r.tokens rtspTokenSession).getD r.session }, {})
    | _ => (r.clear, invalidMessageError)

def parse (r : RtspRequest) (request : Text) : RtspRequest × RtspError :=
  r.take (RtspCommon.parseMessage request r.tokens r.body)

end RtspRequest

structure RtspResponse where
  cSeq : Int := 0
  status : Int := 200
  timeout : Int := -1
  date : Text := []
  nonce : Text := []
  session : Text := []
  digestRealm : Text := []
  server : Text := []
  tokens : Tokens := []
  body : List Text := []
  deriving DecidableEq, Repr

namespace RtspResponse

def clear (r : RtspResponse) : RtspResponse := { r with tokens := [], body := [] }

/-- The session id and the timeout behind its first semicolon. -/
def setSession (r : RtspResponse) (value : Text) : RtspResponse :=
  match TextSplit.breakOn [';'] value with
  | none => { r with session := value }
  | some (id, rest) =>
    if rest = [] then { r with session := value }
    else
      match TextSplit.breakOn ['='] rest with
      | none => { r with session := id }
      | some (_, timeoutStr) => { r with session := id, timeout := atoi timeoutStr }

/-- One item of a digest challenge: `key="value"`. -/
def setAuthenticate (r : RtspResponse) (item : Text) : RtspResponse :=
  let separator := item.idxOf '='
  if separator < item.length ∧ item.length ≥ separator + 2 then
    let key := item.take separator
    let value := item.drop (separator + 2)
    if value = [] then r
    else if key = "Digest realm".toList then { r with digestRealm := value.dropLast }
    else if key = "nonce".toList then { r with nonce := value.dropLast }
    else r
  else r

def setTokens (r : RtspResponse) : RtspResponse :=
  let r := { r with
    cSeq := ((Tokens.find? r.tokens rtspTokenCseq).map atoi).getD r.cSeq
    date := (Tokens.find? r.tokens rtspTokenDate).getD r.date
    server := (Tokens.find? r.tokens rtspTokenServer).getD r.server }
  let r := match Tokens.find? r.tokens rtspTokenSession with
    | none => r
    | some value => r.setSession value
  match Tokens.find? r.tokens rtspTokenWwwAuthenticate with
  | none => r
  | some value => (RtspCommon.split value ", ".toList).foldl setAuthenticate r

/-- `Parse` after the call of `ParseMessage`. -/
def take (r : RtspResponse) (result : RtspCommon.ParsedMessage) : RtspResponse × RtspError :=
  let r := { r with tokens := result.header, body := result.body }
  if result.error.code ≠ .ok ∨ result.firstLine.length < 2 ∨ result.header = [] then
    (r.clear, invalidMessageError)
  else
    match result.firstLine with
    | version :: status :: _ :: _ =>
      if version ≠ rtspVersionText then (r.clear, invalidMessageError)
      else
        let r := { r with status := atoi status }.setTokens
        if result.error.info.length > 2 ∧ result.error.info.getLast? = some '$' then (r, result.error)
        else (r, {})
    | _ => (r.clear, invalidMessageError)

def parse (r : RtspResponse) (response : Text) : RtspResponse × RtspError :=
  r.take (RtspCommon.parseMessage response r.tokens r.body)

end RtspResponse

end WifiDisplay
