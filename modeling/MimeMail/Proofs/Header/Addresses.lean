import MimeMail.Header.Address
import MimeMail.Proofs.Header.Words

namespace MimeMail.Mailbox

theorem mem_go {t mailbox m : Text} {quoted angled : Bool} {c : Char}
    (hm : m ∈ split.go t mailbox quoted angled) (hc : c ∈ m) : c ∈ mailbox ∨ c ∈ t := by
  induction t generalizing mailbox quoted angled with
  | nil =>
    rw [split.go, List.mem_singleton] at hm
    subst hm
    exact .inl (List.mem_reverse.mp hc)
  | cons d t ih =>
    rw [split.go] at hm
    split at hm
    · rcases List.mem_cons.mp hm with rfl | hm
      · exact .inl (List.mem_reverse.mp hc)
      · rcases ih hm with h | h
        · cases h
        · exact .inr (List.mem_cons_of_mem _ h)
    · rcases ih hm with h | h
      · rcases List.mem_cons.mp h with rfl | h
        · exact .inr List.mem_cons_self
        · exact .inl h
      · exact .inr (List.mem_cons_of_mem _ h)

theorem mem_of_mem_split {t m : Text} {c : Char} (hm : m ∈ split t) (hc : c ∈ m) : c ∈ t := by
  rcases mem_go hm hc with h | h
  · cases h
  · exact h

theorem name?_eq_some {t name address : Text} (h : name? t = some (name, address)) :
    t = name ++ address ∧ address.head? = some '<' ∧ address.getLast? = some '>' := by
  rw [name?] at h
  split at h
  · next hl =>
    split at h
    · next before hd =>
      obtain ⟨rfl, rfl⟩ := Prod.mk.inj (Option.some.inj h)
      have hr : t.reverse = t.reverse.takeWhile (· != '<') ++ '<' :: before := by
        rw [← hd, List.takeWhile_append_dropWhile]
      have ht : t = before.reverse ++ '<' :: (t.reverse.takeWhile (· != '<')).reverse := by
        have hr := congrArg List.reverse hr
        simpa using hr
      generalize (t.reverse.takeWhile (· != '<')).reverse = s at ht
      have hdrop : t.drop before.length = '<' :: s := by
        rw [ht, ← List.length_reverse, List.drop_left]
      rw [hdrop]
      refine ⟨ht, rfl, ?_⟩
      rw [ht, List.getLast?_append, List.getLast?_cons] at hl
      rw [List.getLast?_cons]
      simpa using hl
    · cases h
  · cases h

theorem mem_of_mem_trimQuotes {t : Text} {c : Char} (h : c ∈ trimQuotes t) : c ∈ t := by
  rw [trimQuotes, List.mem_reverse] at h
  have h := (List.dropWhile_suffix _).mem h
  rw [List.mem_reverse] at h
  exact (List.dropWhile_suffix _).mem h

theorem isAscii_trimQuotes (t : Text) : Text.isAscii (trimQuotes t) = Text.isAscii t := by
  have hd (l : Text) : (l.dropWhile (· == '"')).all (fun c => c.toNat < 128) =
      l.all fun c => c.toNat < 128 := by
    induction l with
    | nil => rfl
    | cons c l ih =>
      by_cases hc : c = '"'
      · subst hc
        exact ih
      · simp [hc]
  rw [Text.isAscii, trimQuotes, List.all_reverse, hd, List.all_reverse, hd, Text.isAscii]

theorem isLine_encode {t : Text} (h : Text.IsLine t) : Text.IsLine (encode t) := by
  rw [encode]
  split
  · next name address hn =>
    obtain ⟨rfl, -, -⟩ := name?_eq_some hn
    rw [Text.isLine_append] at h
    have ht : Text.IsLine (Text.trim name) := h.1.of_mem fun c hc => Text.mem_of_mem_trim hc
    have ha : Text.IsLine (' ' :: address) := by simp [h.2]
    dsimp only
    split
    · exact h.2
    · split
      · exact Text.isLine_append.mpr ⟨ht, ha⟩
      · refine Text.isLine_append.mpr ⟨EncodedWord.isLine_encode ?_, ha⟩
        exact ht.of_mem fun c hc => mem_of_mem_trimQuotes hc
  · exact EncodedWord.isLine_encode h

theorem isLine_encodeList (t : Text) : Text.IsLine (encodeList t) := by
  have hl := Text.isLine_oneLine t
  rw [encodeList]
  split
  · exact hl
  · apply Text.isLine_join (by simp)
    intro w hw
    obtain ⟨m, hm, rfl⟩ := List.mem_map.mp hw
    apply isLine_encode
    exact hl.of_mem fun c hc => mem_of_mem_split hm (Text.mem_of_mem_trim hc)

/-- A mailbox with one space before its address and no quotes around a name that is not ASCII. -/
def normal (t : Text) : Text :=
  match name? t with
  | some (name, address) =>
    let name := Text.trim name
    if name.isEmpty then address
    else if Text.isAscii name then name ++ ' ' :: address
    else trimQuotes name ++ ' ' :: address
  | none => t

def plain (t : Text) : Text :=
  match name? t with
  | some (name, address) => if Text.isAscii (Text.trim name) then t else address
  | none => if Text.isAscii t then t else []

theorem not_infix_of_name {name address : Text} (h : ¬ ['=', '?'] <:+: name ++ address) :
    ¬ ['=', '?'] <:+: Text.trim name ++ ' ' :: address := by
  have hn : ¬ ['=', '?'] <:+: Text.trim name := fun hn =>
    h ((hn.trans (Text.isInfix_trim name)).trans (List.prefix_append _ _).isInfix)
  have ha : ¬ ['=', '?'] <:+: address := fun ha => h (ha.trans (List.suffix_append _ _).isInfix)
  have hs : ¬ ['=', '?'] <:+: ' ' :: address :=
    Text.not_infix_append (t := [' ']) (by decide) ha (.inl (by simp))
  exact Text.not_infix_append hn hs (.inr (by simp))

theorem ne_nil_of_head {c : Char} {t : Text} (h : t.head? = some c) : t ≠ [] := by
  rintro rfl
  cases h

theorem isTrimmed_encode {t : Text} (h : Text.IsTrimmed t) : Text.IsTrimmed (encode t) := by
  unfold encode
  split
  · next name address hn =>
    obtain ⟨-, hh, hl⟩ := name?_eq_some hn
    have hblank : ∀ c ∈ address.getLast?, Text.isBlank c = false := by
      simp [hl, Text.isBlank]
    have hnil : ' ' :: address ≠ [] := by simp
    have hlast : ∀ c ∈ (' ' :: address).getLast?, Text.isBlank c = false := by
      simp [List.getLast?_cons, hl, Text.isBlank]
    have htrim := Text.isTrimmed_trim name
    dsimp only
    split
    · exact Text.isTrimmed_of_edges (by simp [hh, Text.isBlank]) hblank
    · next he =>
      split
      · exact Text.isTrimmed_append (by simpa using he) hnil htrim.head hlast
      · next ha =>
        have hq : Text.isAscii (trimQuotes (Text.trim name)) = false := by
          rw [isAscii_trimQuotes]
          simpa using ha
        have hw := EncodedWord.isTrimmed_encode hq
        exact Text.isTrimmed_append (EncodedWord.encode_ne_nil hq) hnil hw.head hlast
  · by_cases ha : Text.isAscii t
    · simpa [EncodedWord.encode, ha] using h
    · exact EncodedWord.isTrimmed_encode (by simpa using ha)

theorem encode_ne_nil {t : Text} (h : t ≠ []) : encode t ≠ [] := by
  unfold encode
  split
  · next name address hn =>
    have ha := ne_nil_of_head (name?_eq_some hn).2.1
    dsimp only
    split
    · exact ha
    · split <;> simp
  · by_cases ha : Text.isAscii t
    · simpa [EncodedWord.encode, ha] using h
    · exact EncodedWord.encode_ne_nil (by simpa using ha)

theorem getLast_normal {t : Text} (h : Text.IsTrimmed t) (hn : t ≠ []) :
    normal t ≠ [] ∧ ∀ c ∈ (normal t).getLast?, Text.isBlank c = false := by
  unfold normal
  split
  · next name address hn =>
    obtain ⟨-, hh, hl⟩ := name?_eq_some hn
    have ha := ne_nil_of_head hh
    have hb (s : Text) : s ++ ' ' :: address ≠ [] ∧
        ∀ c ∈ (s ++ ' ' :: address).getLast?, Text.isBlank c = false := by
      simp [List.getLast?_append, List.getLast?_cons, hl, Text.isBlank]
    dsimp only
    split
    · exact ⟨ha, by simp [hl, Text.isBlank]⟩
    · split
      · exact hb _
      · exact hb _
  · exact ⟨hn, h.last⟩

theorem isTrimmed_join_append {ms : List Text} {t : Text} (hm : ∀ m ∈ ms, Text.IsTrimmed m)
    (hn : t ≠ []) (ht : Text.IsTrimmed t) :
    Text.IsTrimmed (Text.join [',', ' '] (ms.map encode) ++ t) := by
  by_cases hj : Text.join [',', ' '] (ms.map encode) = []
  · rwa [hj]
  · apply Text.isTrimmed_append hj hn _ ht.last
    intro c hc
    rcases Text.head_of_join (by simp) hc with hc | ⟨w, hw, hc⟩
    · obtain rfl : ',' = c := by simpa using hc
      decide
    · obtain ⟨m, hmem, rfl⟩ := List.mem_map.mp hw
      exact (isTrimmed_encode (hm m hmem)).head c hc

theorem isTrimmed_join_concat {init : List Text} {m : Text} (hinit : ∀ m ∈ init, Text.IsTrimmed m)
    (hm : Text.IsTrimmed m) (hn : m ≠ []) :
    Text.IsTrimmed (Text.join [',', ' '] ((init ++ [m]).map encode)) := by
  rw [List.map_append, List.map_singleton]
  by_cases hi : init = []
  · subst hi
    exact isTrimmed_encode hm
  · rw [Text.join_concat (by simpa using hi)]
    apply isTrimmed_join_append hinit (by simp)
    exact Text.isTrimmed_append (by simp) (encode_ne_nil hn) (by simp [Text.isBlank])
      (isTrimmed_encode hm).last

theorem getLast?_join_normal {init : List Text} {m : Text} (hm : Text.IsTrimmed m) (hn : m ≠ []) :
    ∀ c ∈ (Text.join [',', ' '] ((init ++ [m]).map normal)).getLast?, Text.isBlank c = false := by
  have hl := getLast_normal hm hn
  rw [List.map_append, List.map_singleton]
  by_cases hi : init = []
  · subst hi
    exact hl.2
  · rw [Text.join_concat (by simpa using hi), ← List.append_assoc,
      List.getLast?_append_of_ne_nil _ hl.1]
    exact hl.2

def normalList (t : Text) : Text :=
  Text.trimEnd (Text.join [',', ' '] ((split t).map fun m => normal (Text.trim m)))

variable [Charset.Library]

theorem decodeFrom_encode {g t : Text} (afterWord : Bool) (hp : ¬ ['=', '?'] <:+: plain t)
    (hg : ¬ ['=', '?'] <:+: g) (hl : g.getLast? ≠ some '=')
    (hb : afterWord = true → g.all Text.isBlank = false) :
    ∃ after, ∀ r : Text, r.head? ≠ some '?' →
      EncodedWord.decodeFrom afterWord (g ++ (encode t ++ r)) =
        g ++ (normal t ++ EncodedWord.decodeFrom after r) := by
  unfold plain at hp
  unfold encode normal
  cases hn : name? t with
  | none =>
    rw [hn] at hp
    by_cases ha : Text.isAscii t
    · refine ⟨false, fun r hr => ?_⟩
      simp only [EncodedWord.encode, ha, if_true] at hp ⊢
      exact EncodedWord.decodeFrom_gap_append afterWord hg hl hb hp hr
    · exact ⟨true, fun r _ => EncodedWord.decodeFrom_gap_encode afterWord r hg hb (by simpa using ha)⟩
  | some parts =>
    obtain ⟨name, address⟩ := parts
    obtain ⟨rfl, hh, -⟩ := name?_eq_some hn
    rw [hn] at hp
    refine ⟨false, fun r hr => ?_⟩
    dsimp only at hp ⊢
    by_cases ha : Text.isAscii (Text.trim name)
    · rw [if_pos ha] at hp
      by_cases he : (Text.trim name).isEmpty
      · rw [if_pos he, if_pos he]
        have hs : ¬ ['=', '?'] <:+: address := fun h => hp (h.trans (List.suffix_append _ _).isInfix)
        exact EncodedWord.decodeFrom_gap_append afterWord hg hl hb hs hr
      · rw [if_neg he, if_neg he, if_pos ha, if_pos ha]
        exact EncodedWord.decodeFrom_gap_append afterWord hg hl hb (not_infix_of_name hp) hr
    · have hs : ¬ ['=', '?'] <:+: ' ' :: address :=
        Text.not_infix_append (t := [' ']) (by decide) (by simpa [ha] using hp) (.inl (by simp))
      have hq : Text.isAscii (trimQuotes (Text.trim name)) = false := by
        rw [isAscii_trimQuotes]
        simpa using ha
      have he : (Text.trim name).isEmpty = false := by
        simpa using EncodedWord.ne_nil_of_isAscii (by simpa using ha)
      have hd : EncodedWord.decodeFrom true (' ' :: address ++ r) =
          ' ' :: address ++ EncodedWord.decodeFrom false r := by
        apply EncodedWord.decodeFrom_append true hs (.inr hr)
        obtain ⟨address, rfl⟩ := List.head?_eq_some_iff.mp hh
        simp [Text.isBlank]
      simp only [he, ha, Bool.false_eq_true, if_false]
      rw [List.append_assoc, EncodedWord.decodeFrom_gap_encode _ _ hg hb hq, hd, List.append_assoc]

theorem decodeFrom_join {g : Text} {ms : List Text} (afterWord : Bool)
    (hp : ∀ m ∈ ms, ¬ ['=', '?'] <:+: plain m) (hn : ms ≠ []) (hg : ¬ ['=', '?'] <:+: g)
    (hl : g.getLast? ≠ some '=') (hb : afterWord = true → g.all Text.isBlank = false) :
    ∃ after, ∀ r : Text, r.head? ≠ some '?' →
      EncodedWord.decodeFrom afterWord (g ++ (Text.join [',', ' '] (ms.map encode) ++ r)) =
        g ++ (Text.join [',', ' '] (ms.map normal) ++ EncodedWord.decodeFrom after r) := by
  induction ms generalizing g afterWord with
  | nil => exact absurd rfl hn
  | cons m ms ih =>
    rw [List.forall_mem_cons] at hp
    obtain ⟨middle, hm⟩ := decodeFrom_encode afterWord hp.1 hg hl hb
    by_cases hms : ms = []
    · subst hms
      exact ⟨middle, hm⟩
    · have hc : ¬ ['=', '?'] <:+: [',', ' '] := by decide
      obtain ⟨after, hi⟩ := ih middle hp.2 hms hc (by simp) (by simp [Text.isBlank])
      refine ⟨after, fun r hr => ?_⟩
      have hr' : ([',', ' '] ++ (Text.join [',', ' '] (ms.map encode) ++ r)).head? ≠ some '?' := by
        simp
      rw [List.map_cons, List.map_cons, Text.join_cons (by simpa using hms),
        Text.join_cons (by simpa using hms)]
      simp only [List.append_assoc]
      rw [hm _ hr', hi r hr]

theorem decode_join {ms : List Text} (r : Text) (hn : ms ≠ [])
    (hp : ∀ m ∈ ms, ¬ ['=', '?'] <:+: plain m) (hr : ¬ ['=', '?'] <:+: r)
    (hh : r.head? ≠ some '?') :
    EncodedWord.decode (Text.join [',', ' '] (ms.map encode) ++ r) =
      Text.join [',', ' '] (ms.map normal) ++ r := by
  obtain ⟨after, hd⟩ := decodeFrom_join (g := []) false hp hn (by simp) (by simp) (by simp)
  have hd := hd r hh
  rwa [EncodedWord.decodeFrom_plain after hr] at hd

theorem decode_trim_join_nil {init : List Text} (hi : init ≠ [])
    (hinit : ∀ m ∈ init, Text.IsTrimmed m) (hp : ∀ m ∈ init, ¬ ['=', '?'] <:+: plain m) :
    EncodedWord.decode (Text.trim (Text.join [',', ' '] ((init ++ [[]]).map encode))) =
      Text.trimEnd (Text.join [',', ' '] ((init ++ [[]]).map normal)) := by
  have hcomma : Text.IsTrimmed [','] := by decide
  have htrim := isTrimmed_join_append hinit (by simp) hcomma
  have hw (s : Text) : s ++ ([',', ' '] ++ []) = s ++ [','] ++ [' '] := by simp
  have hd := decode_join [','] hi hp (by decide) (by simp)
  have hencode : encode [] = [] := rfl
  have hnormal : normal [] = [] := rfl
  rw [List.map_append, List.map_append, List.map_singleton, List.map_singleton,
    Text.join_concat (by simpa using hi), Text.join_concat (by simpa using hi), hencode, hnormal,
    hw, hw, Text.trim_append_blank _ rfl, htrim, hd, Text.trimEnd_eq_rdropWhile,
    Text.rdropWhile_append_of_all (by simp [Text.isBlank]),
    Text.rdropWhile_eq_self (by simp [Text.isBlank])]

theorem decode_trim_join {ms : List Text} (ht : ∀ m ∈ ms, Text.IsTrimmed m)
    (hp : ∀ m ∈ ms, ¬ ['=', '?'] <:+: plain m) :
    EncodedWord.decode (Text.trim (Text.join [',', ' '] (ms.map encode))) =
      Text.trimEnd (Text.join [',', ' '] (ms.map normal)) := by
  have hnil : EncodedWord.decode [] = [] := EncodedWord.decodeFrom_plain false (by simp)
  rcases List.eq_nil_or_concat ms with rfl | ⟨init, m, rfl⟩
  · exact hnil
  rw [List.concat_eq_append] at ht hp ⊢
  have hinit : ∀ m ∈ init, Text.IsTrimmed m := fun m hm => ht m (by simp [hm])
  have hm : Text.IsTrimmed m := ht m (by simp)
  by_cases he : m = []
  · subst he
    by_cases hi : init = []
    · subst hi
      exact hnil
    · exact decode_trim_join_nil hi hinit fun m hm => hp m (by simp [hm])
  · have hd := decode_join [] (by simp) hp (by simp) (by simp)
    rw [List.append_nil, List.append_nil] at hd
    have htrim : Text.IsTrimmed _ := isTrimmed_join_concat hinit hm he
    rw [htrim, hd, Text.trimEnd_eq_rdropWhile, Text.rdropWhile_eq_self (getLast?_join_normal hm he)]

theorem decode_trim_encodeList {t : Text} (ha : Text.isAscii t = false)
    (hp : ∀ m ∈ split (Text.oneLine t), ¬ ['=', '?'] <:+: plain (Text.trim m)) :
    EncodedWord.decode (Text.trim (encodeList t)) = normalList (Text.oneLine t) := by
  have ht : ∀ m ∈ (split (Text.oneLine t)).map Text.trim, Text.IsTrimmed m := by
    intro m hm
    obtain ⟨s, -, rfl⟩ := List.mem_map.mp hm
    exact Text.isTrimmed_trim s
  have hd := decode_trim_join ht (by simpa using hp)
  rw [List.map_map, List.map_map] at hd
  rw [encodeList, Text.isAscii_oneLine, if_neg (by simp [ha])]
  exact hd

theorem decode_trim_encodeList_of_isAscii {t : Text} (ha : Text.isAscii t = true) :
    EncodedWord.decode (Text.trim (encodeList t)) =
      EncodedWord.decode (Text.trim (Text.oneLine t)) := by
  rw [encodeList, Text.isAscii_oneLine, if_pos ha]

end MimeMail.Mailbox
