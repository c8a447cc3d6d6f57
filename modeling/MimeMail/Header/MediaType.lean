import MimeMail.Error
import MimeMail.Text.Lowercase

namespace MimeMail

structure MediaType where
  essence : Text
  params : List (Text × Text)
  deriving DecidableEq

namespace MediaType

def isSpecial (c : Char) : Bool := "()<>@,;:\\\"/[]?=".toList.contains c

def isToken (t : Text) : Bool := !t.isEmpty && t.all fun c => Text.isGraphic c && !isSpecial c

def quoted? : Text → Option (Text × Text)
  | [] => none
  | ['\\'] => none
  | '"' :: r => some ([], r)
  | '\\' :: c :: r => (quoted? r).map fun (value, rest) => (c :: value, rest)
  | c :: r => (quoted? r).map fun (value, rest) => (c :: value, rest)

theorem length_of_quoted {t value rest : Text} (h : quoted? t = some (value, rest)) :
    rest.length < t.length := by
  fun_induction quoted? t generalizing value with
  | case1 => simp at h
  | case2 => simp at h
  | case3 r =>
    cases h
    simp
  | case4 c r ih =>
    obtain ⟨⟨v, s⟩, hq, hv⟩ := Option.map_eq_some_iff.1 h
    cases hv
    have := ih hq
    simp
    omega
  | case5 c r _ _ _ ih =>
    obtain ⟨⟨v, s⟩, hq, hv⟩ := Option.map_eq_some_iff.1 h
    cases hv
    have := ih hq
    simp
    omega

def value? (t : Text) : Option (Text × Text) :=
  match t with
  | '"' :: r => (quoted? r).map fun (value, rest) => (value, rest.dropWhile (· != ';'))
  | _ => some (Text.trim (t.takeWhile (· != ';')), t.dropWhile (· != ';'))

theorem length_dropWhile_le {α : Type} (p : α → Bool) (l : List α) :
    (l.dropWhile p).length ≤ l.length := (List.dropWhile_suffix p).length_le

theorem length_of_value {t value rest : Text} (h : value? t = some (value, rest)) :
    rest.length ≤ t.length := by
  unfold value? at h
  split at h
  · obtain ⟨⟨v, s⟩, hq, hv⟩ := Option.map_eq_some_iff.1 h
    cases hv
    have := length_of_quoted hq
    have := length_dropWhile_le (· != ';') s
    simp
    omega
  · cases h
    exact length_dropWhile_le _ _

def readParams (t : Text) : Except MediaTypeFault (List (Text × Text)) :=
  let start := t.dropWhile fun c => c == ';' || Text.isBlank c
  if start.isEmpty then .ok []
  else
    match _hn : Text.cutAt ['='] start with
    | none => .error .noValue
    | some (name, r) =>
      let name := Text.lowercase (Text.trim name)
      if !isToken name then .error .badName
      else
        match _hv : value? (Text.trimStart r) with
        | none => .error .openQuote
        | some (value, rest) => (readParams rest).map fun params => (name, value) :: params
termination_by t.length
decreasing_by
  have := Text.length_of_cutAt _hn
  have := length_of_value _hv
  have := length_dropWhile_le (fun c => c == ';' || Text.isBlank c) t
  have := length_dropWhile_le Text.isBlank r
  simp [Text.trimStart, start] at *
  omega

def firstOfEach (seen : List Text) : List (Text × Text) → List (Text × Text)
  | [] => []
  | (name, value) :: r =>
    if seen.contains name then firstOfEach seen r
    else (name, value) :: firstOfEach (name :: seen) r

def read (t : Text) : Except MediaTypeFault MediaType :=
  let essence := Text.lowercase (Text.trim (t.takeWhile (· != ';')))
  match Text.cutAt ['/'] essence with
  | none => .error .noSlash
  | some (main, sub) =>
    if !isToken main || !isToken sub then .error .badType
    else (readParams (t.dropWhile (· != ';'))).map fun params => ⟨essence, firstOfEach [] params⟩

def ofText (t : Text) : Except MailError MediaType :=
  (read t).mapError fun fault => .invalidMediaType t fault

def param? (m : MediaType) (name : Text) : Option Text :=
  (m.params.find? fun param => Text.same param.1 name).map (·.2)

def namesMultipart (essence : Text) : Bool := (Text.cutAt "multipart".toList essence).isSome

def isMultipart (m : MediaType) : Bool := namesMultipart m.essence

end MediaType

end MimeMail
