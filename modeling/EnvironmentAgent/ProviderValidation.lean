import EnvironmentAgent.RoutingCloudEvent

/-! # Checks of a registration request

The validators of `provider/provider.go` and the part of `Handler.CreateProvider` before the service
is called. A check returns the text of its error. Whether an authority, a path and a fragment are
well formed, and which host an authority names, is a parameter. -/
namespace ProviderValidation

open RoutingCloudEvent (Bytes)

def isSpace (c : Char) : Bool :=
  let n := c.toNat
  (9 ≤ n && n ≤ 13) || n == 0x20 || n == 0x85 || n == 0xA0 || n == 0x1680 ||
    (0x2000 ≤ n && n ≤ 0x200A) || n == 0x2028 || n == 0x2029 || n == 0x202F || n == 0x205F ||
    n == 0x3000

def trimSpace (s : String) : String :=
  String.ofList ((s.toList.dropWhile isSpace).reverse.dropWhile isSpace).reverse

@[simp] theorem trimSpace_empty : trimSpace "" = "" := rfl

def isDigit (c : Char) : Bool := '0' ≤ c && c ≤ '9'
def isLower (c : Char) : Bool := 'a' ≤ c && c ≤ 'z'
def isLetter (c : Char) : Bool := isLower c || ('A' ≤ c && c ≤ 'Z')

def cut (sep : Char) (s : List Char) : List Char × List Char :=
  (s.takeWhile (· ≠ sep), (s.dropWhile (· ≠ sep)).tail)

structure URL where
  scheme : List Char
  host : List Char
  rawQuery : List Char
  fragment : List Char
  deriving DecidableEq, Repr

/-- The rules of `net/url` for the parts that are not split further here. -/
structure URLSyntax where
  /-- `parseAuthority`: the host, or `none` for an error. -/
  parseAuthority : (scheme authority : List Char) → Option (List Char)
  setPath : List Char → Bool
  setFragment : List Char → Bool

def isCTLByte (c : Char) : Bool := c < ' ' || c.toNat == 0x7f

def isSchemeChar (c : Char) : Bool := isLetter c || isDigit c || c == '+' || c == '-' || c == '.'

def splitScheme : List Char → Option (List Char × List Char)
  | [] => none
  | c :: cs =>
    if c = ':' then some ([], cs)
    else if isSchemeChar c then (splitScheme cs).map fun (scheme, rest) => (c :: scheme, rest)
    else none

def getScheme (rawURL : List Char) : Option (List Char × List Char) :=
  match rawURL with
  | [] => some ([], [])
  | c :: _ =>
    if c = ':' then none
    else if isLetter c then (splitScheme rawURL).or (some ([], rawURL))
    else some ([], rawURL)

def parseHierarchy (syn : URLSyntax) (scheme rest rawQuery : List Char) : Option URL :=
  if (scheme ≠ [] ∨ ¬ ['/', '/', '/'] <+: rest) ∧ ['/', '/'] <+: rest then
    let authority := (rest.drop 2).takeWhile (· ≠ '/')
    let path := (rest.drop 2).dropWhile (· ≠ '/')
    match syn.parseAuthority scheme authority with
    | none => none
    | some host => if syn.setPath path then some ⟨scheme, host, rawQuery, []⟩ else none
  else if syn.setPath rest then some ⟨scheme, [], rawQuery, []⟩
  else none

/-- Without the fragment. A question mark at the end is cut off at the same place whether or not
it sets `ForceQuery`. -/
def parseURL (syn : URLSyntax) (rawURL : List Char) : Option URL :=
  if rawURL.any isCTLByte then none
  else if rawURL = ['*'] then some ⟨[], [], [], []⟩
  else match getScheme rawURL with
    | none => none
    | some (scheme, rest) =>
      let scheme := scheme.map Char.toLower
      let (rest, rawQuery) := cut '?' rest
      if ¬ ['/'] <+: rest ∧ scheme ≠ [] then some ⟨scheme, [], rawQuery, []⟩
      else if ¬ ['/'] <+: rest ∧ ':' ∈ (cut '/' rest).1 then none
      else parseHierarchy syn scheme rest rawQuery

/-- `url.Parse`. A fragment unescapes to an empty text only if it is empty. -/
def urlParse (syn : URLSyntax) (rawURL : String) : Option URL :=
  let (u, frag) := cut '#' rawURL.toList
  match parseURL syn u with
  | none => none
  | some url =>
    if frag = [] then some url
    else if syn.setFragment frag then some { url with fragment := frag }
    else none

def validateName (name : String) : Option String :=
  if trimSpace name = "" then some "must not be empty" else none

def validateServiceType (serviceType : String) : Option String :=
  if trimSpace serviceType = "" then some "must not be empty" else none

/-- `^[a-z0-9]([a-z0-9-]{0,61}[a-z0-9])?$` -/
def providerIDRegex (id : List Char) : Bool :=
  let alnum := fun c => isLower c || isDigit c
  match id with
  | [] => false
  | [c] => alnum c
  | c :: d :: cs =>
    alnum c && (d :: cs).dropLast.length ≤ 61 &&
      (d :: cs).dropLast.all (fun e => alnum e || e == '-')
      && alnum ((d :: cs).getLast (List.cons_ne_nil d cs))

def validateProviderID (id : String) : Option String :=
  if id = "" then some "provider ID must not be empty"
  else if id.utf8ByteSize > 63 then some "provider ID must be at most 63 characters"
  else if id.toList.head? = some '-' ∨ id.toList.getLast? = some '-' then
    some "provider ID must not start or end with a hyphen"
  else if !providerIDRegex id.toList then
    some "provider ID must contain only lowercase alphanumeric characters and hyphens"
  else none

/-- `^v[0-9]+(alpha|beta)?[0-9]*$`. The first run of digits takes all there are, so what follows
it is a stage with its digits, or nothing. -/
def schemaVersionRegex (version : List Char) : Bool :=
  match version with
  | 'v' :: cs =>
    let stage := cs.dropWhile isDigit
    let number :=
      if ['a', 'l', 'p', 'h', 'a'] <+: stage then stage.drop 5
      else if ['b', 'e', 't', 'a'] <+: stage then stage.drop 4
      else stage
    !(cs.takeWhile isDigit).isEmpty && number.all isDigit
  | _ => false

def validateSchemaVersion (version : String) : Option String :=
  if version = "" then some "schema version must not be empty"
  else if !schemaVersionRegex version.toList then
    some "schema version must match format vN[alpha|beta]N (e.g. v1alpha1)"
  else none

def validateEndpoint (syn : URLSyntax) (endpoint : String) : Option String :=
  match urlParse syn endpoint with
  | none => some "malformed URI"
  | some u =>
    if u.scheme ≠ "http".toList ∧ u.scheme ≠ "https".toList then some "scheme must be http or https"
    else if u.host = [] then some "missing host"
    else if u.rawQuery ≠ [] then some "endpoint must not contain query parameters"
    else if u.fragment ≠ [] then some "endpoint must not contain a fragment"
    else none

/-- The query parameter and the body of the request; the metadata is its JSON text. -/
structure CreateProviderRequest where
  id : Option String
  name : String
  endpoint : String
  serviceType : String
  schemaVersion : String
  displayName : Option String
  operations : Option (List String)
  metadata : Bytes
  deriving DecidableEq

structure RegistrationInput where
  name : String
  endpoint : String
  serviceType : String
  schemaVersion : String
  displayName : Option String
  providerID : Option String
  operations : Option (List String)
  metadata : Bytes
  deriving DecidableEq

def validationError (field err : String) : String := "invalid " ++ field ++ ": " ++ err

def validateRequest (syn : URLSyntax) (request : CreateProviderRequest) :
    Except String RegistrationInput :=
  let name := trimSpace request.name
  let serviceType := trimSpace request.serviceType
  match request.id.bind validateProviderID, validateName name, validateServiceType serviceType,
      validateSchemaVersion request.schemaVersion, validateEndpoint syn request.endpoint with
  | some err, _, _, _, _ => .error (validationError "id" err)
  | none, some err, _, _, _ => .error (validationError "name" err)
  | none, none, some err, _, _ => .error (validationError "service_type" err)
  | none, none, none, some err, _ => .error (validationError "schema_version" err)
  | none, none, none, none, some err => .error (validationError "endpoint" err)
  | none, none, none, none, none =>
    .ok ⟨name, request.endpoint, serviceType, request.schemaVersion, request.displayName,
      request.id, request.operations, request.metadata⟩

structure Admissible (syn : URLSyntax) (input : RegistrationInput) : Prop where
  name : input.name ≠ ""
  serviceType : input.serviceType ≠ ""
  schemaVersion : input.schemaVersion ≠ ""
  providerID : input.providerID ≠ some ""
  endpoint : validateEndpoint syn input.endpoint = none

variable {syn : URLSyntax} {input : RegistrationInput}

theorem validateRequest_admissible {request : CreateProviderRequest}
    (h : validateRequest syn request = .ok input) :
    Admissible syn input := by
  simp only [validateRequest] at h
  split at h
  · cases h
  · cases h
  · cases h
  · cases h
  · cases h
  · next hid hname htype hversion hendpoint =>
    cases h
    constructor
    · intro (heq : trimSpace request.name = "")
      simp [heq, validateName] at hname
    · intro (heq : trimSpace request.serviceType = "")
      simp [heq, validateServiceType] at htype
    · intro (heq : request.schemaVersion = "")
      simp [heq, validateSchemaVersion] at hversion
    · intro (heq : request.id = some "")
      simp [heq, validateProviderID] at hid
    · exact hendpoint

theorem getScheme_embedded (rest : List Char) :
    getScheme ("embedded:".toList ++ rest) = some ("embedded".toList, rest) := by
  simp [getScheme, splitScheme, isLetter, isLower, isSchemeChar]

theorem parseURL_scheme {rawURL scheme rest : List Char} {u : URL}
    (hs : getScheme rawURL = some (scheme, rest)) (hne : rawURL ≠ ['*'])
    (h : parseURL syn rawURL = some u) : u.scheme = scheme.map Char.toLower := by
  simp only [parseURL, hs, if_neg hne, parseHierarchy] at h
  split at h
  · cases h
  · split at h
    · cases h
      rfl
    · split at h
      · cases h
      · split at h
        · split at h
          · cases h
          · split at h
            · cases h
              rfl
            · cases h
        · split at h
          · cases h
            rfl
          · cases h

theorem Admissible.not_embedded (h : Admissible syn input) (name : String) :
    input.endpoint ≠ "embedded://" ++ name := by
  intro heq
  have hendpoint := h.endpoint
  rw [heq] at hendpoint
  have hcut : (cut '#' ("embedded://" ++ name).toList).1 =
      "embedded:".toList ++ ('/' :: '/' :: (cut '#' name.toList).1) := by
    simp [cut]
  simp only [validateEndpoint, urlParse, hcut] at hendpoint
  split at hendpoint
  · cases hendpoint
  · next u hu =>
    have hscheme : u.scheme = "embedded".toList := by
      split at hu
      · cases hu
      · next url hparse =>
        have := parseURL_scheme (getScheme_embedded _) (by simp) hparse
        split at hu
        · cases hu
          simpa using this
        · split at hu
          · cases hu
            simpa using this
          · cases hu
    simp [hscheme] at hendpoint

end ProviderValidation
