import MimeMail.Proofs.Header.MediaTypes

namespace MimeMail.MediaType

inductive WrittenValue where
  | quoted (v : Text)
  | bare (v : Text)
  deriving DecidableEq

structure WrittenParam where
  before : Text
  after : Text
  name : Text
  left : Text
  right : Text
  value : WrittenValue
  deriving DecidableEq

namespace WrittenValue

def text : WrittenValue → Text
  | quoted v => '"' :: v.flatMap escaped ++ ['"']
  | bare v => v

def value : WrittenValue → Text
  | quoted v => v
  | bare v => v

def IsWellFormed : WrittenValue → Prop
  | quoted _ => True
  | bare v => v ≠ [] ∧ ';' ∉ v ∧ Text.IsTrimmed v ∧ v.head? ≠ some '"'

theorem text_ne_nil {v : WrittenValue} (h : v.IsWellFormed) : v.text ≠ [] := by
  cases v with
  | quoted v => exact List.cons_ne_nil _ _
  | bare v => exact h.1

theorem head?_text {v : WrittenValue} (h : v.IsWellFormed) :
    ∀ c ∈ v.text.head?, Text.isBlank c = false := by
  cases v with
  | quoted v =>
    intro c hc
    cases hc
    rfl
  | bare v => exact h.2.2.1.head

theorem value?_text {v : WrittenValue} (h : v.IsWellFormed) {r : Text}
    (hr : ∀ c ∈ r.takeWhile (· != ';'), Text.isBlank c = true) :
    value? (v.text ++ r) = some (v.value, r.dropWhile (· != ';')) := by
  cases v with
  | quoted v =>
    have htext : (quoted v).text ++ r = '"' :: (v.flatMap escaped ++ '"' :: r) := by simp [text]
    rw [htext]
    exact value?_quoted v r
  | bare v =>
    obtain ⟨hne, hsemicolon, htrim, hquote⟩ := h
    apply value?_of_bare r _ hsemicolon htrim hr
    rwa [List.head?_append_of_ne_nil _ hne]

end WrittenValue

namespace WrittenParam

def text (p : WrittenParam) : Text :=
  p.before ++ ';' :: (p.after ++ (p.name ++ (p.left ++ '=' :: (p.right ++ p.value.text))))

def param (p : WrittenParam) : Text × Text := (p.name.map Char.toLower, p.value.value)

structure IsWellFormed (p : WrittenParam) : Prop where
  before : ∀ c ∈ p.before, Text.isBlank c = true
  after : ∀ c ∈ p.after, Text.isBlank c = true
  name : isToken p.name = true
  left : ∀ c ∈ p.left, Text.isBlank c = true
  right : ∀ c ∈ p.right, Text.isBlank c = true
  value : p.value.IsWellFormed

theorem semicolon_not_mem_before {p : WrittenParam} (h : p.IsWellFormed) : ';' ∉ p.before :=
  fun hc => by cases h.before _ hc

theorem takeWhile_text {ps : List WrittenParam} (h : ∀ p ∈ ps, p.IsWellFormed) :
    ∀ c ∈ (ps.flatMap text).takeWhile (· != ';'), Text.isBlank c = true := by
  cases ps with
  | nil => exact List.forall_mem_nil _
  | cons p ps =>
    rw [List.forall_mem_cons] at h
    rw [List.flatMap_cons, text, List.append_assoc, (cut_append _ (semicolon_not_mem_before h.1)).1]
    simpa using h.1.before

theorem readParams_text {ps : List WrittenParam} (h : ∀ p ∈ ps, p.IsWellFormed) :
    readParams ((ps.flatMap text).dropWhile (· != ';')) = .ok (ps.map param) := by
  induction ps with
  | nil => exact readParams_nil
  | cons p ps ih =>
    rw [List.forall_mem_cons] at h
    have hstart : ((p :: ps).flatMap text).dropWhile (· != ';') =
        ';' :: (p.after ++ (p.name ++ (p.left ++
          '=' :: (p.right ++ (p.value.text ++ ps.flatMap text))))) := by
      rw [List.flatMap_cons, text, List.append_assoc, (cut_append _ (semicolon_not_mem_before h.1)).2]
      simp
    have hvalue : Text.trimStart (p.right ++ (p.value.text ++ ps.flatMap text)) =
        p.value.text ++ ps.flatMap text := by
      rw [Text.trimStart, List.dropWhile_append_of_pos h.1.right]
      apply Text.dropWhile_eq_self
      rw [List.head?_append_of_ne_nil _ (WrittenValue.text_ne_nil h.1.value)]
      exact WrittenValue.head?_text h.1.value
    have hread := WrittenValue.value?_text h.1.value (takeWhile_text h.2)
    rw [← hvalue] at hread
    rw [hstart, readParams_cons h.1.after h.1.name h.1.left hread, ih h.2]
    rfl

end WrittenParam

theorem firstOfEach_eq_eraseDupsBy (seen : List Text) (params : List (Text × Text)) :
    firstOfEach seen params =
      (params.filter fun p => !seen.contains p.1).eraseDupsBy fun p q => p.1 == q.1 := by
  induction params generalizing seen with
  | nil => rfl
  | cons p params ih =>
    obtain ⟨name, value⟩ := p
    rw [firstOfEach]
    split
    · next hc => rw [ih, List.filter_cons_of_neg (by simpa using hc)]
    · next hc =>
      rw [List.filter_cons_of_pos (by simpa using hc), List.eraseDupsBy_cons, List.filter_filter, ih]
      congr 3
      funext p
      have hcomm : (p.1 == name) = (name == p.1) := BEq.comm
      rw [List.contains_cons, Bool.not_or, hcomm]
      cases name == p.1 <;> rfl

theorem find?_firstOfEach (test : Text → Bool) {seen : List Text} (params : List (Text × Text))
    (h : ∀ name ∈ seen, test name = false) :
    (firstOfEach seen params).find? (fun p => test p.1) = params.find? fun p => test p.1 := by
  induction params generalizing seen with
  | nil => rfl
  | cons p params ih =>
    obtain ⟨name, value⟩ := p
    rw [firstOfEach]
    split
    · next hc => rw [ih h, List.find?_cons_of_neg (by simp [h name (by simpa using hc)])]
    · cases ht : test name with
      | true => simp only [List.find?_cons, ht]
      | false =>
        simp only [List.find?_cons, ht]
        exact ih (List.forall_mem_cons.mpr ⟨ht, h⟩)

theorem ofText_written {main sub : Text} {ps : List WrittenParam} (hm : isToken main = true)
    (hs : isToken sub = true) (hp : ∀ p ∈ ps, p.IsWellFormed) :
    ∃ m, ofText (main ++ '/' :: sub ++ ps.flatMap WrittenParam.text) = .ok m ∧
      m.essence = (main ++ '/' :: sub).map Char.toLower ∧
      m.params = (ps.map WrittenParam.param).eraseDupsBy (fun p q => p.1 == q.1) ∧
      ∀ name, m.param? name =
        (ps.find? fun p => Text.same p.name name).map fun p => p.value.value := by
  have htype : IsType (main ++ '/' :: sub) := ⟨main, sub, rfl, hm, hs⟩
  have hread := htype.read_append (WrittenParam.takeWhile_text hp)
  rw [WrittenParam.readParams_text hp, Text.lowercase_eq_map htype.lt] at hread
  refine ⟨⟨_, firstOfEach [] (ps.map WrittenParam.param)⟩, by rw [ofText, hread]; rfl, rfl, ?_,
    fun name => ?_⟩
  · rw [firstOfEach_eq_eraseDupsBy, List.filter_eq_self.mpr (by simp)]
  · rw [param?, find?_firstOfEach (fun n => Text.same n name) _ (List.forall_mem_nil _),
      List.find?_map, Option.map_map]
    simp only [Function.comp_def, WrittenParam.param, Text.same_map_toLower]

theorem ofText_written_twice :
    ∃ m, ofText "Text/HTML ; Charset =\t\"a;\\\"\\\\\";CHARSET=x ;\n Name=y = z".toList = .ok m ∧
      m.essence = "text/html".toList ∧
      m.params = [("charset".toList, "a;\"\\".toList), ("name".toList, "y = z".toList)] ∧
      m.param? "NAME".toList = some "y = z".toList := by
  let charset : WrittenParam :=
    ⟨[' '], [' '], "Charset".toList, [' '], ['\t'], .quoted "a;\"\\".toList⟩
  let again : WrittenParam := ⟨[], [], "CHARSET".toList, [], [], .bare ['x']⟩
  let name : WrittenParam := ⟨[' '], ['\n', ' '], "Name".toList, [], [], .bare "y = z".toList⟩
  have hcharset : charset.IsWellFormed := by
    refine ⟨?_, ?_, by decide, ?_, ?_, trivial⟩ <;> simp [charset, Text.isBlank]
  have hagain : again.IsWellFormed := by
    refine ⟨?_, ?_, by decide, ?_, ?_, by simp, by simp, by decide, by simp⟩ <;> simp [again]
  have hname : name.IsWellFormed := by
    refine ⟨?_, ?_, by decide, ?_, ?_, by simp, by simp, by decide, by simp⟩ <;>
      simp [name, Text.isBlank]
  have hparams : ∀ p ∈ [charset, again, name], p.IsWellFormed := by simp [hcharset, hagain, hname]
  obtain ⟨m, hread, hessence, hkept, hfound⟩ :=
    ofText_written (by decide : isToken "Text".toList = true)
      (by decide : isToken "HTML".toList = true) hparams
  exact ⟨m, hread, hessence.trans (by decide), hkept.trans (by decide),
    (hfound "NAME".toList).trans (by decide)⟩

end MimeMail.MediaType
