import MimeMail.Proofs.Header.Mailboxes
import MimeMail.Proofs.Header.RoundTrip

/-!
The mailboxes of a header that is written and read again. Mailboxes of plain names and addresses
come back unchanged. Of other lists the number of mailboxes is kept exactly if each mailbox stays
one mailbox without the quotes around its name: a name that is not ASCII comes back without them.
-/

namespace MimeMail.Mailbox

inductive Form where
  | bare (address : Text)
  | named (name address : Text)
  deriving DecidableEq

structure IsPhrase (t : Text) : Prop where
  ne_nil : t ≠ []
  isTrimmed : Text.IsTrimmed t
  plain : ∀ c ∈ t, c ∉ ['\r', '\n', '"', ',', '<', '>']
  unmarked : ¬ ['=', '?'] <:+: t

namespace IsPhrase

variable {t : Text}

theorem ne (h : IsPhrase t) {c d : Char} (hc : c ∈ t) (hd : d ∈ ['\r', '\n', '"', ',', '<', '>']) :
    c ≠ d := by
  rintro rfl
  exact h.plain c hc hd

theorem isLine (h : IsPhrase t) : Text.IsLine t :=
  fun _ hc => ⟨h.ne hc (by decide), h.ne hc (by decide)⟩

theorem alike_nil (h : IsPhrase t) : Alike t [] := by
  constructor <;> intro s
  · exact Opened.after_eq_self fun c hc =>
      ⟨h.ne hc (by decide), h.ne hc (by decide), h.ne hc (by decide)⟩
  · exact Opened.separators_eq_zero fun hc => h.ne hc (by decide) rfl

theorem trimQuotes_eq (h : IsPhrase t) : trimQuotes t = t := by
  have hq (l : Text) (hl : ∀ c ∈ l, c ∈ t) : l.dropWhile (· == '"') = l := by
    apply Text.dropWhile_eq_self
    intro c hc
    rw [beq_eq_false_iff_ne]
    exact h.ne (hl c (List.mem_of_head? hc)) (by decide)
  rw [trimQuotes, hq t fun _ hc => hc, hq t.reverse fun c hc => List.mem_reverse.mp hc,
    List.reverse_reverse]

end IsPhrase

namespace Form

def text : Form → Text
  | bare address => address
  | named name address => name ++ ' ' :: '<' :: (address ++ ['>'])

def IsPlain : Form → Prop
  | bare address => IsPhrase address
  | named name address => IsPhrase name ∧ IsPhrase address

theorem name?_named {name address : Text} (h : IsPhrase address) :
    name? (named name address).text = some (name ++ [' '], '<' :: (address ++ ['>'])) := by
  have hp : ∀ c ∈ '>' :: address.reverse, (c != '<') = true := by
    rw [List.forall_mem_cons]
    refine ⟨rfl, fun c hc => bne_iff_ne.mpr ?_⟩
    exact h.ne (List.mem_reverse.mp hc) (by decide)
  have hr : (named name address).text.reverse =
      '>' :: address.reverse ++ '<' :: (' ' :: name.reverse) := by simp [text]
  have hd : (named name address).text.reverse.dropWhile (· != '<') = '<' :: ' ' :: name.reverse := by
    rw [hr, List.dropWhile_append_of_pos hp]
    rfl
  have hl : (named name address).text.getLast? = some '>' := by
    simp [text, List.getLast?_append, List.getLast?_cons]
  rw [name?, hl, if_pos (by decide), hd]
  simp [text]

theorem name?_bare {address : Text} (h : IsPhrase address) : name? address = none := by
  have hl : address.getLast? ≠ some '>' := fun hl => h.ne (List.mem_of_getLast? hl) (by decide) rfl
  rw [name?, if_neg (by simpa using hl)]

variable {m : Form}

theorem isTrimmed_text (h : m.IsPlain) : Text.IsTrimmed m.text ∧ m.text ≠ [] := by
  cases m with
  | bare address => exact ⟨h.isTrimmed, h.ne_nil⟩
  | named name address =>
    refine ⟨Text.isTrimmed_append h.1.ne_nil (by simp) h.1.isTrimmed.head ?_, by simp [text]⟩
    simp [List.getLast?_cons, Text.isBlank]

theorem isLine_text (h : m.IsPlain) : Text.IsLine m.text := by
  cases m with
  | bare address => exact h.isLine
  | named name address => simp [text, h.1.isLine, h.2.isLine]

theorem isClosed_text (h : m.IsPlain) : IsClosed m.text := by
  cases m with
  | bare address => exact ⟨h.alike_nil.separators {}, h.alike_nil.after {}⟩
  | named name address =>
    have ha : Alike (name ++ ([' ', '<'] ++ (address ++ ['>'])))
        ([] ++ ([' ', '<'] ++ ([] ++ ['>']))) :=
      h.1.alike_nil.append ((Alike.refl _).append (h.2.alike_nil.append (Alike.refl _)))
    exact ⟨ha.separators {}, ha.after {}⟩

theorem unmarked_text (h : m.IsPlain) : ¬ ['=', '?'] <:+: m.text := by
  cases m with
  | bare address => exact h.unmarked
  | named name address =>
    have hclose : ¬ ['=', '?'] <:+: address ++ ['>'] :=
      Text.not_infix_append h.2.unmarked (by decide) (.inr (by simp))
    have hopen : ¬ ['=', '?'] <:+: [' ', '<'] ++ (address ++ ['>']) :=
      Text.not_infix_append (by decide) hclose (.inl (by simp))
    exact Text.not_infix_append h.1.unmarked hopen (.inr (by simp))

theorem normal_text (h : m.IsPlain) : normal m.text = m.text := by
  cases m with
  | bare address => rw [text, normal, name?_bare h]
  | named name address =>
    have ht : Text.trim (name ++ [' ']) = name :=
      (Text.trim_append_blank name rfl).trans h.1.isTrimmed
    have hn : name.isEmpty = false := by simpa using h.1.ne_nil
    rw [normal, name?_named h.2]
    simp [ht, hn, h.1.trimQuotes_eq, text]

end Form

theorem isInfix_plain (t : Text) : plain t <:+: t := by
  unfold plain
  split
  · next name address hn =>
    obtain ⟨rfl, -, -⟩ := name?_eq_some hn
    split
    · exact List.infix_refl _
    · exact (List.suffix_append _ _).isInfix
  · split
    · exact List.infix_refl _
    · exact List.nil_infix

/-- A mailbox that comes back unchanged, whatever mailboxes stand around it. -/
structure IsStable (t : Text) : Prop extends IsClosed t where
  ne_nil : t ≠ []
  isTrimmed : Text.IsTrimmed t
  isLine : Text.IsLine t
  unmarked : ¬ ['=', '?'] <:+: t
  normal : normal t = t

theorem Form.isStable {m : Form} (h : m.IsPlain) : IsStable m.text where
  toIsClosed := m.isClosed_text h
  ne_nil := (m.isTrimmed_text h).2
  isTrimmed := (m.isTrimmed_text h).1
  isLine := m.isLine_text h
  unmarked := m.unmarked_text h
  normal := m.normal_text h

theorem normalList_join {ts : List Text} (hn : ts ≠ []) (h : ∀ t ∈ ts, IsStable t) :
    normalList (Text.join [',', ' '] ts) = Text.join [',', ' '] ts := by
  have htrim : Text.IsTrimmed (Text.join [',', ' '] ts) :=
    Text.isTrimmed_join fun t ht => ⟨(h t ht).isTrimmed, (h t ht).ne_nil⟩
  have hsplit := map_trim_split_join hn fun t ht => ⟨(h t ht).toIsClosed, (h t ht).isTrimmed⟩
  have hnormal : ts.map normal = ts := (List.map_congr_left fun t ht => (h t ht).normal).trans ts.map_id
  have hmap : (fun m => normal (Text.trim m)) = normal ∘ Text.trim := rfl
  rw [normalList, hmap, ← List.map_map, hsplit, hnormal, Text.trimEnd_eq_rdropWhile,
    Text.rdropWhile_eq_self htrim.last]

theorem decode_trim_encodeList_self [Charset.Library] {t : Text} (ha : Text.isAscii t = true)
    (hl : Text.IsLine t)
    (hm : ¬ ['=', '?'] <:+: t) : EncodedWord.decode (Text.trim (encodeList t)) = Text.trim t := by
  have htrim : ¬ ['=', '?'] <:+: Text.trim t := fun hi => hm (hi.trans (Text.isInfix_trim t))
  rw [decode_trim_encodeList_of_isAscii ha, Text.oneLine_eq_self hl, EncodedWord.decode,
    EncodedWord.decodeFrom_plain false htrim]

theorem decode_trim_encodeList_join [Charset.Library] {ts : List Text} (hn : ts ≠ [])
    (h : ∀ t ∈ ts, IsStable t) :
    EncodedWord.decode (Text.trim (encodeList (Text.join [',', ' '] ts))) =
      Text.join [',', ' '] ts := by
  have hcomma : Text.IsLine [',', ' '] := by simp
  have hline := Text.isLine_join hcomma fun t ht => (h t ht).isLine
  by_cases ha : Text.isAscii (Text.join [',', ' '] ts) = true
  · have htrim : Text.IsTrimmed (Text.join [',', ' '] ts) :=
      Text.isTrimmed_join fun t ht => ⟨(h t ht).isTrimmed, (h t ht).ne_nil⟩
    have hmark : ¬ ['=', '?'] <:+: Text.join [',', ' '] ts :=
      Text.not_infix_join (by decide) (by decide) (by simp) fun t ht => (h t ht).unmarked
    rw [decode_trim_encodeList_self ha hline hmark, htrim]
  · have hplain : ∀ m ∈ split (Text.join [',', ' '] ts), ¬ ['=', '?'] <:+: plain (Text.trim m) := by
      intro m hm hi
      have hmem : Text.trim m ∈ ts := by
        rw [← map_trim_split_join hn fun t ht => ⟨(h t ht).toIsClosed, (h t ht).isTrimmed⟩]
        exact List.mem_map_of_mem hm
      exact (h _ hmem).unmarked (hi.trans (isInfix_plain _))
    have hone := Text.oneLine_eq_self hline
    rw [decode_trim_encodeList (by simpa using ha) (by rwa [hone]), hone, normalList_join hn h]

theorem Alike.trimEnd (t : Text) : Alike (Text.trimEnd t) t := by
  have hb : Alike (t.rtakeWhile Text.isBlank) [] :=
    Alike.of_blanks fun c hc => List.mem_rtakeWhile_imp hc
  have ht : Text.trimEnd t ++ t.rtakeWhile Text.isBlank = t := List.rdropWhile_append_rtakeWhile
  have h := (Alike.refl (Text.trimEnd t)).append hb
  rw [ht, List.append_nil] at h
  exact ⟨fun s => (h.after s).symm, fun s => (h.separators s).symm⟩

theorem alike_normal {t : Text} (h : Text.isAscii t = true) : Alike (normal t) t := by
  unfold normal
  split
  · next name address hn =>
    obtain ⟨rfl, -, -⟩ := name?_eq_some hn
    have hname := Alike.trim name
    have ha : Text.isAscii (Text.trim name) = true := by
      rw [Text.isAscii, List.all_append, Bool.and_eq_true] at h
      exact List.all_eq_true.mpr fun c hc => List.all_eq_true.mp h.1 c (Text.mem_of_mem_trim hc)
    dsimp only
    split
    · next he =>
      rw [List.isEmpty_iff.mp he] at hname
      exact hname.append (.refl address)
    · have hspace : Alike [' '] [] := .of_blanks (by simp [Text.isBlank])
      exact hname.append (hspace.append (.refl address))
  · exact .refl t

theorem getLast?_normal_of_name {t : Text} {parts : Text × Text} (h : name? t = some parts) :
    (normal t).getLast? = some '>' := by
  obtain ⟨name, address⟩ := parts
  obtain ⟨-, hh, hl⟩ := name?_eq_some h
  have hs (s : Text) : (s ++ ' ' :: address).getLast? = some '>' := by
    simp [List.getLast?_append, List.getLast?_cons, hl]
  rw [normal, h]
  dsimp only
  split
  · exact hl
  · split
    · exact hs _
    · exact hs _

theorem after_normal {t : Text} (ht : Opened.after {} t = {}) (hq : Even ((normal t).count '"')) :
    Opened.after {} (normal t) = {} := by
  cases hn : name? t with
  | none => rwa [normal, hn]
  | some parts =>
    -- The last character closes the address if no quote is open before it.
    obtain ⟨s, hs⟩ := List.getLast?_eq_some_iff.mp (getLast?_normal_of_name hn)
    have hclosed : (Opened.after {} (normal t)).quoted = false := by
      rw [← Bool.not_eq_true, Opened.quoted_after_iff]
      exact not_not_intro hq
    have hnext : Opened.after {} (normal t) = (Opened.after {} s).next '>' := by
      rw [hs, Opened.after_append]
      rfl
    rw [hnext] at hclosed ⊢
    have hquoted : (Opened.after {} s).quoted = false := hclosed
    simp [Opened.next, hquoted]

theorem length_split_normalList {t : Text}
    (hq : ∀ m ∈ (split t).dropLast, Even ((normal (Text.trim m)).count '"')) :
    (split (normalList t)).length =
      ((split t).map fun m => (split (normal (Text.trim m))).length).sum := by
  have hrow := isRow_split t
  have hafter : ∀ m ∈ ((split t).map fun m => normal (Text.trim m)).dropLast,
      Opened.after {} m = {} := by
    rw [← List.map_dropLast, List.forall_mem_map]
    intro m hm
    apply after_normal _ (hq m hm)
    rw [(Alike.trim m).after, hrow.after m hm]
  have hne : (split t).map (fun m => normal (Text.trim m)) ≠ [] := by simpa using hrow.ne_nil
  rw [length_split, normalList, (Alike.trimEnd _).separators, separators_join hne hafter,
    List.map_map]
  rfl

theorem sum_length_split_iff (ms : List Text) :
    (ms.map fun m => (split m).length).sum = ms.length ↔ ∀ m ∈ ms, (split m).length = 1 := by
  have hsum : (ms.map fun m => (split m).length).sum =
      (ms.map (Opened.separators {})).sum + ms.length := by
    simp only [length_split, List.sum_map_add]
    simp
  rw [hsum, Nat.add_eq_right, List.sum_eq_zero_iff, List.forall_mem_map]
  simp [length_split]

theorem plain_of_isAscii {t : Text} (h : Text.isAscii t = true) : plain t = t := by
  unfold plain
  split
  · next name address hn =>
    obtain ⟨rfl, -, -⟩ := name?_eq_some hn
    rw [Text.isAscii, List.all_append, Bool.and_eq_true] at h
    rw [if_pos]
    exact List.all_eq_true.mpr fun c hc => List.all_eq_true.mp h.1 c (Text.mem_of_mem_trim hc)
  · rw [if_pos h]

theorem isAscii_of_mem_split {t m : Text} (h : Text.isAscii t = true) (hm : m ∈ split t) :
    Text.isAscii (Text.trim m) = true :=
  List.all_eq_true.mpr fun _ hc =>
    List.all_eq_true.mp h _ (mem_of_mem_split hm (Text.mem_of_mem_trim hc))

theorem unmarked_of_isAscii {t : Text} (ha : Text.isAscii t = true)
    (h : ∀ m ∈ split t, ¬ ['=', '?'] <:+: plain (Text.trim m)) : ¬ ['=', '?'] <:+: t := by
  rw [← join_split t]
  refine Text.not_infix_join (by decide) (by decide) (by simp) fun m hm => ?_
  have hplain := h m hm
  rw [plain_of_isAscii (isAscii_of_mem_split ha hm)] at hplain
  exact Text.not_infix_of_trim rfl rfl hplain

end MimeMail.Mailbox

namespace MimeMail.Header

theorem exists_ofBytes_write [Charset.Library] {h : Header} (hd : h.descriptor = {}) :
    ∃ r, ofBytes (Utf8.encode h.write) = .ok r ∧
      r.sender = EncodedWord.decode (Text.trim (Mailbox.encodeList h.sender)) ∧
      r.receiver = EncodedWord.decode (Text.trim (Mailbox.encodeList h.receiver)) := by
  have hr : h.descriptor.IsReadable := by
    rw [hd]
    exact Descriptor.isReadable_default
  exact ⟨_, ofBytes_write_ofFields hr, h.sender_fields, h.receiver_fields⟩

theorem mailboxes_written [Charset.Library] {ms : List Mailbox.Form} (hn : ms ≠ [])
    (hp : ∀ m ∈ ms, m.IsPlain) {h : Header} (hd : h.descriptor = {}) :
    ∃ r, ofBytes (Utf8.encode h.write) = .ok r ∧
      (h.sender = Text.join [',', ' '] (ms.map Mailbox.Form.text) → r.sender = h.sender) ∧
      (h.receiver = Text.join [',', ' '] (ms.map Mailbox.Form.text) → r.receiver = h.receiver) := by
  have hnil : ms.map Mailbox.Form.text ≠ [] := by simpa using hn
  have hstable : ∀ t ∈ ms.map Mailbox.Form.text, Mailbox.IsStable t :=
    List.forall_mem_map.mpr fun m hm => m.isStable (hp m hm)
  have hlist := Mailbox.decode_trim_encodeList_join hnil hstable
  obtain ⟨r, hr, hsender, hreceiver⟩ := exists_ofBytes_write hd
  refine ⟨r, hr, fun hs => ?_, fun hv => ?_⟩
  · rw [hsender, hs, hlist]
  · rw [hreceiver, hv, hlist]

theorem mailboxes_written_names :
    ∃ r, ofBytes (Utf8.encode (write { receiver := "Zoë <z@x.org>, bob@x.org".toList })) = .ok r ∧
      r.receiver = "Zoë <z@x.org>, bob@x.org".toList := by
  have hname : Mailbox.IsPhrase "Zoë".toList :=
    ⟨by decide, by decide +kernel, by simp, by decide +kernel⟩
  have haddress : Mailbox.IsPhrase "z@x.org".toList :=
    ⟨by decide, by decide +kernel, by simp, by decide +kernel⟩
  have hbare : Mailbox.IsPhrase "bob@x.org".toList :=
    ⟨by decide, by decide +kernel, by simp, by decide +kernel⟩
  have hplain : ∀ m ∈ [Mailbox.Form.named "Zoë".toList "z@x.org".toList, .bare "bob@x.org".toList],
      m.IsPlain :=
    List.forall_mem_cons.mpr ⟨⟨hname, haddress⟩, List.forall_mem_singleton.mpr hbare⟩
  obtain ⟨r, hr, -, hreceiver⟩ := mailboxes_written (List.cons_ne_nil _ _) hplain
    (h := { receiver := "Zoë <z@x.org>, bob@x.org".toList }) rfl
  exact ⟨r, hr, hreceiver rfl⟩

/-- The number of mailboxes is kept exactly if each of them is still one without the quotes that it
loses. Quotes are lost in pairs, and nothing that is written as it stands looks like an encoded
word. -/
theorem recipients_kept_iff [Charset.Library] {v : Text} (hline : Text.IsLine v)
    (hmark : ∀ m ∈ Mailbox.split v, ¬ ['=', '?'] <:+: Mailbox.plain (Text.trim m))
    (hquotes : ∀ m ∈ (Mailbox.split v).dropLast, Even ((Mailbox.normal (Text.trim m)).count '"'))
    {h : Header} (hd : h.descriptor = {}) (hv : h.receiver = v) :
    ∃ r, ofBytes (Utf8.encode h.write) = .ok r ∧
      ((Mailbox.split r.receiver).length = (Mailbox.split v).length ↔
        ∀ m ∈ Mailbox.split v, (Mailbox.split (Mailbox.normal (Text.trim m))).length = 1) := by
  obtain ⟨r, hr, -, hreceiver⟩ := exists_ofBytes_write hd
  refine ⟨r, hr, ?_⟩
  rw [hreceiver, hv]
  by_cases ha : Text.isAscii v = true
  · -- No quote is lost, so both sides hold.
    rw [Mailbox.decode_trim_encodeList_self ha hline (Mailbox.unmarked_of_isAscii ha hmark)]
    refine iff_of_true ?_ fun m hm => ?_
    · rw [Mailbox.length_split, Mailbox.length_split, (Mailbox.Alike.trim v).separators]
    · rw [Mailbox.length_split,
        (Mailbox.alike_normal (Mailbox.isAscii_of_mem_split ha hm)).separators,
        (Mailbox.Alike.trim m).separators, (Mailbox.isRow_split v).single m hm]
  · have hmark : ∀ m ∈ Mailbox.split (Text.oneLine v),
        ¬ ['=', '?'] <:+: Mailbox.plain (Text.trim m) := by
      rwa [Text.oneLine_eq_self hline]
    have hsum := Mailbox.sum_length_split_iff
      ((Mailbox.split v).map fun m => Mailbox.normal (Text.trim m))
    rw [List.map_map, List.length_map, List.forall_mem_map] at hsum
    rw [Mailbox.decode_trim_encodeList (by simpa using ha) hmark, Text.oneLine_eq_self hline,
      Mailbox.length_split_normalList hquotes]
    exact hsum

theorem recipients_kept_iff_quoted :
    ∃ r, ofBytes (Utf8.encode (write { receiver := "\"Zoë Q\" <z@x>, \"Q, R\" <q@x>".toList })) =
        .ok r ∧
      (Mailbox.split r.receiver).length = 2 := by
  have hlength : (Mailbox.split "\"Zoë Q\" <z@x>, \"Q, R\" <q@x>".toList).length = 2 := by
    decide +kernel
  obtain ⟨r, hr, hkept⟩ := recipients_kept_iff
    (h := { receiver := "\"Zoë Q\" <z@x>, \"Q, R\" <q@x>".toList })
    (by simp) (by decide +kernel) (by decide +kernel) rfl rfl
  refine ⟨r, hr, ?_⟩
  rw [hkept.mpr (by decide +kernel), hlength]

theorem recipient_split :
    (Mailbox.split "\"Müller, Hans\" <h@x.org>".toList).length = 1 ∧
      ∃ r, ofBytes (Utf8.encode (write { receiver := "\"Müller, Hans\" <h@x.org>".toList })) =
          .ok r ∧
        r.receiver = "Müller, Hans <h@x.org>".toList ∧ (Mailbox.split r.receiver).length = 2 := by
  have hone : (Mailbox.split "\"Müller, Hans\" <h@x.org>".toList).length = 1 := by decide +kernel
  have htwo : (Mailbox.split "Müller, Hans <h@x.org>".toList).length = 2 := by decide +kernel
  have hread : EncodedWord.decode
      (Text.trim (Mailbox.encodeList "\"Müller, Hans\" <h@x.org>".toList)) =
      "Müller, Hans <h@x.org>".toList := by
    rw [Mailbox.decode_trim_encodeList (by decide +kernel) (by decide +kernel)]
    decide +kernel
  obtain ⟨r, hr, -, hreceiver⟩ :=
    exists_ofBytes_write (h := { receiver := "\"Müller, Hans\" <h@x.org>".toList }) rfl
  have hlist : r.receiver = "Müller, Hans <h@x.org>".toList := hreceiver.trans hread
  exact ⟨hone, r, hr, hlist, hlist ▸ htwo⟩

end MimeMail.Header
