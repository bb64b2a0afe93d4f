import BuildScripts.Proofs.Json.Bytes
import BuildScripts.Proofs.Json.Tokens

/-!
Reading of written JSON. What a value is written as takes the machine from where a value is wanted to
where the value has been placed, whatever is open around it. Main statement: a value of null, flags,
integers, texts, lists and objects is read again as it was, from its text and from its bytes.
-/

namespace BuildScripts

open BuildScripts.Text

inductive Value.Plain : Nat → Value → Prop
  | null {room : Nat} : Plain room .null
  | bool {room : Nat} (b : Bool) : Plain room (.bool b)
  | int {room : Nat} {i : Int} (h : i.natAbs < 10 ^ Json.longest) : Plain room (.int i)
  | text {room : Nat} (s : String) : Plain room (.text s)
  | list {room : Nat} {items : List Value} (h : ∀ v ∈ items, Plain room v) :
    Plain (room + 1) (.list items)
  | object {room : Nat} {members : List (String × Value)} (hkeys : (members.map Prod.fst).Nodup)
    (h : ∀ m ∈ members, Plain room m.2) : Plain (room + 1) (.object members)

namespace Json

structure Layout.Plain (l : Layout) : Prop where
  between : l.between = ","
  afterColon : ∀ c ∈ l.afterColon.toList, isSpace c = true

theorem plain_compact : compact.Plain :=
  ⟨rfl, by simp [compact]⟩

theorem plain_indented : indented.Plain :=
  ⟨rfl, by simp [indented, isSpace]⟩

theorem isSpace_lineBreak (l : Layout) (depth : Nat) :
    ∀ c ∈ (l.lineBreak depth).toList, isSpace c = true := by
  intro c hc
  rw [Layout.lineBreak] at hc
  split at hc
  · cases hc
  · rw [String.toList_append, List.mem_append] at hc
    rcases hc with hc | hc
    · obtain rfl : c = '\n' := List.mem_singleton.1 hc
      rfl
    · rw [String.toList_ofList] at hc
      obtain rfl := List.eq_of_mem_replicate hc
      rfl

/-! ### What is written -/

section Written

variable {l : Layout} {depth : Nat}

theorem writeItems_eq (items : List Value) :
    writeItems l depth items = items.map (write l depth) := by
  induction items with
  | nil => rfl
  | cons v vs ih => rw [writeItems, ih, List.map_cons]

def member (l : Layout) (depth : Nat) (m : String × Value) : String :=
  textLiteral m.1 ++ ":" ++ l.afterColon ++ write l depth m.2

def keyed (members : List (String × Value)) : List (Value × Value) :=
  members.map fun (k, v) => (.text k, v)

theorem writeEntries_eq (members : List (String × Value)) :
    writeEntries l depth (keyed members) = members.map (member l depth) := by
  induction members with
  | nil => rfl
  | cons m ms ih => exact congrArg (member l depth m :: ·) ih

def further (l : Layout) (depth : Nat) (members : List String) : List Char :=
  members.flatMap fun m => ',' :: (l.lineBreak depth).toList ++ m.toList

theorem toList_intercalate_cons (sep m : String) (ms : List String) :
    (String.intercalate sep (m :: ms)).toList = m.toList ++ ms.flatMap fun x => sep.toList ++ x.toList := by
  induction ms generalizing m with
  | nil => simp
  | cons x xs ih =>
    rw [String.intercalate_cons_cons, String.toList_append, String.toList_append, ih, List.flatMap_cons]
    simp only [List.append_assoc]

theorem toList_enclose_nil {opening closing : String} {o c : Char} (ho : opening.toList = [o])
    (hc : closing.toList = [c]) : (l.enclose depth opening closing []).toList = [o] ++ [c] := by
  rw [Layout.enclose, String.toList_append, ho, hc]

theorem toList_enclose (hl : l.Plain) (opening closing m : String) (ms : List String) :
    (l.enclose depth opening closing (m :: ms)).toList = opening.toList ++
      ((l.lineBreak (depth + 1)).toList ++ (m.toList ++ (further l (depth + 1) ms ++
        ((l.lineBreak depth).toList ++ closing.toList)))) := by
  have henclose : l.enclose depth opening closing (m :: ms) = opening ++ l.lineBreak (depth + 1) ++
      String.intercalate (l.between ++ l.lineBreak (depth + 1)) (m :: ms) ++ l.lineBreak depth ++
        closing := rfl
  rw [henclose]
  simp only [String.toList_append, toList_intercalate_cons, hl.between, further, List.append_assoc]
  rfl

end Written

/-! ### The machine -/

def Feeds (cs : List Char) (st st' : State) (rest : List Char) : Prop :=
  ∀ n pos, run n st (tokensFrom [] 0 pos (cs ++ rest)) =
    run n st' (tokensFrom [] 0 (pos + cs.length) rest)

namespace Feeds

variable {cs ds rest : List Char} {st st' st'' : State}

theorem append (h : Feeds cs st st' (ds ++ rest)) (h' : Feeds ds st' st'' rest) :
    Feeds (cs ++ ds) st st'' rest := by
  intro n pos
  rw [List.append_assoc, h, h', List.length_append, Nat.add_assoc]

theorem of_reads {t : Token} (h : t.Reads cs rest) (ht : ∀ pos, st.take ⟨t, pos⟩ = .ok st') :
    Feeds cs st st' rest := by
  intro n pos
  rw [h, run, ht]
  rfl

theorem of_spaces (h : ∀ c ∈ cs, isSpace c = true) : Feeds cs st st rest := by
  intro n pos
  induction cs generalizing pos with
  | nil => rfl
  | cons c cs ih =>
    rw [List.cons_append, tokensFrom, if_pos (h c List.mem_cons_self),
      ih (fun x hx => h x (List.mem_cons_of_mem _ hx)), List.length_cons]
    congr 2
    omega

end Feeds

theorem State.place_eq (st : State) (v : Value) : st.place v = (⟨st.stack, .value⟩ : State).place v := by
  cases st with
  | mk stack expecting =>
    cases stack with
    | nil => rfl
    | cons f fs => cases f <;> rfl

def State.Wants (st : State) : Prop :=
  st.expecting = .value ∨ st.expecting = .valueOrClose

theorem State.take_of_wants {st st' : State} {p : Placed} (h : st.Wants) (hp : p.token ≠ .closeList)
    (ht : st.takeValue p = .ok st') : st.take p = .ok st' := by
  rcases h with h | h
  · rw [take, h]
    exact ht
  · rw [take, h]
    cases htoken : p.token
    case closeList => exact absurd htoken hp
    all_goals exact ht

def FeedsValue (l : Layout) (depth room : Nat) (v : Value) : Prop :=
  ∀ st rest, st.Wants → st.stack.length + room ≤ deepest → EndsNumber rest →
    Feeds (write l depth v).toList st (st.place v) rest

theorem endsNumber_further {l : Layout} {depth : Nat} (ms : List String) {rest : List Char}
    (h : EndsNumber rest) : EndsNumber (further l depth ms ++ rest) := by
  cases ms with
  | nil => exact h
  | cons m ms => exact endsNumber_cons (by decide) _

theorem endsNumber_spaces {cs rest : List Char} (hcs : ∀ c ∈ cs, isSpace c = true)
    (h : EndsNumber rest) : EndsNumber (cs ++ rest) := by
  cases cs with
  | nil => exact h
  | cons c cs =>
    refine endsNumber_cons ?_ _
    have hc := hcs c List.mem_cons_self
    simp only [isSpace, Bool.or_eq_true, beq_iff_eq] at hc
    rcases hc with ((rfl | rfl) | rfl) | rfl <;> decide

section Members

variable {l : Layout} {depth room : Nat} {fs : List Frame} {rest : List Char}

theorem feeds_comma_items {vs : List Value} :
    Feeds [','] ⟨.items vs :: fs, .next⟩ ⟨.items vs :: fs, .value⟩ rest :=
  .of_reads (reads_punctuation rfl rest) fun _ => rfl

theorem feeds_furtherItems {items vs : List Value} (hitems : ∀ v ∈ items, FeedsValue l depth room v)
    (hroom : fs.length + 1 + room ≤ deepest) (h : EndsNumber rest) :
    Feeds (further l depth (items.map (write l depth))) ⟨.items vs :: fs, .next⟩
      ⟨.items (items.reverse ++ vs) :: fs, .next⟩ rest := by
  -- The frame holds the items in reverse, so each one goes in front.
  induction items generalizing vs with
  | nil => exact .of_spaces (by simp [further])
  | cons v items ih =>
    have hfirst : Feeds (write l depth v).toList ⟨.items vs :: fs, .value⟩
        ⟨.items (v :: vs) :: fs, .next⟩ (further l depth (items.map (write l depth)) ++ rest) :=
      hitems v List.mem_cons_self ⟨.items vs :: fs, .value⟩ _ (.inl rfl) hroom
        (endsNumber_further _ h)
    have hrest : Feeds (further l depth (items.map (write l depth))) ⟨.items (v :: vs) :: fs, .next⟩
        ⟨.items (items.reverse ++ v :: vs) :: fs, .next⟩ rest :=
      ih fun x hx => hitems x (List.mem_cons_of_mem _ hx)
    have hall := (feeds_comma_items.append (.append (.of_spaces (isSpace_lineBreak l depth))
      hfirst)).append hrest
    rw [List.reverse_cons, List.append_assoc]
    simpa [further] using hall

theorem textValue_toNat (s : String) : textValue (s.toList.map Char.toNat) = .text s := by
  rw [textValue, properText?_toNat]

theorem feeds_member (hl : l.Plain) {m : String × Value} (hm : FeedsValue l depth room m.2)
    (es : List (Value × Value)) (k : Value) {e : Expecting} (he : e = .key ∨ e = .keyOrClose)
    (hroom : fs.length + 1 + room ≤ deepest) (h : EndsNumber rest) :
    Feeds (member l depth m).toList ⟨.entries es k :: fs, e⟩
      ⟨.entries (Value.setKey (.text m.1) m.2 es) (.text m.1) :: fs, .next⟩ rest := by
  have hkey (rest : List Char) : Feeds (textLiteral m.1).toList ⟨.entries es k :: fs, e⟩
      ⟨.entries es k :: fs, .colon (.text m.1)⟩ rest := by
    refine .of_reads (reads_text m.1 rest) fun pos => ?_
    rcases he with rfl | rfl
    · simp only [State.take, State.takeKey, textValue_toNat]
    · simp only [State.take, State.takeKey, textValue_toNat]
  have hcolon (rest : List Char) : Feeds [':'] ⟨.entries es k :: fs, .colon (.text m.1)⟩
      ⟨.entries es (.text m.1) :: fs, .value⟩ rest :=
    .of_reads (reads_punctuation rfl rest) fun _ => rfl
  have hvalue : Feeds (write l depth m.2).toList ⟨.entries es (.text m.1) :: fs, .value⟩
      ⟨.entries (Value.setKey (.text m.1) m.2 es) (.text m.1) :: fs, .next⟩ rest :=
    hm _ rest (.inl rfl) hroom h
  have hall := (hkey _).append ((hcolon _).append ((Feeds.of_spaces hl.afterColon).append hvalue))
  simpa [member, List.append_assoc] using hall

theorem feeds_comma_entries {es : List (Value × Value)} {k : Value} :
    Feeds [','] ⟨.entries es k :: fs, .next⟩ ⟨.entries es k :: fs, .key⟩ rest :=
  .of_reads (reads_punctuation rfl rest) fun _ => rfl

theorem setKey_of_new {name : String} {v : Value} {ms : List (String × Value)}
    (h : name ∉ ms.map Prod.fst) :
    Value.setKey (.text name) v (keyed ms) = keyed (ms ++ [(name, v)]) := by
  induction ms with
  | nil => rfl
  | cons m ms ih =>
    rw [List.map_cons, List.mem_cons, not_or] at h
    have hkey : ¬ (Value.text m.1).sameKey (.text name) = true := by
      rw [Value.sameKey, beq_iff_eq]
      exact fun heq => h.1 heq.symm
    have hset : Value.setKey (.text name) v (keyed (m :: ms)) =
        (.text m.1, m.2) :: Value.setKey (.text name) v (keyed ms) := if_neg hkey
    rw [hset, ih h.2]
    rfl

theorem feeds_furtherMembers (hl : l.Plain) {ms : List (String × Value)}
    (before : List (String × Value)) (k : Value) (hms : ∀ m ∈ ms, FeedsValue l depth room m.2)
    (hkeys : ((before ++ ms).map Prod.fst).Nodup)
    (hroom : fs.length + 1 + room ≤ deepest) : ∃ k', ∀ rest, EndsNumber rest →
      Feeds (further l depth (ms.map (member l depth))) ⟨.entries (keyed before) k :: fs, .next⟩
        ⟨.entries (keyed (before ++ ms)) k' :: fs, .next⟩ rest := by
  induction ms generalizing before k with
  | nil => exact ⟨k, fun rest _ => by rw [List.append_nil]; exact .of_spaces (by simp [further])⟩
  | cons m ms ih =>
    have hnew : m.1 ∉ before.map Prod.fst := by
      rw [List.map_append, List.map_cons] at hkeys
      exact fun hmem => (List.nodup_append.1 hkeys).2.2 _ hmem _ List.mem_cons_self rfl
    rw [List.append_cons] at hkeys ⊢
    obtain ⟨k', hrest⟩ := ih (before ++ [m]) (.text m.1)
      (fun x hx => hms x (List.mem_cons_of_mem _ hx)) hkeys
    refine ⟨k', fun rest h => ?_⟩
    have hends : EndsNumber (further l depth (ms.map (member l depth)) ++ rest) :=
      endsNumber_further _ h
    have hfirst := feeds_member hl (hms m List.mem_cons_self) (keyed before) k (.inl rfl) hroom hends
    rw [setKey_of_new hnew] at hfirst
    have hall := (feeds_comma_entries.append (.append (.of_spaces (isSpace_lineBreak l depth))
      hfirst)).append (hrest rest h)
    simpa [further] using hall

end Members

/-! ### Whole values -/

section Values

variable {l : Layout} {depth room : Nat}

theorem feedsValue_of_reads {v : Value} {t : Token} (ht : t ≠ .closeList)
    (hread : ∀ rest, EndsNumber rest → t.Reads (write l depth v).toList rest)
    (htake : ∀ (st : State) pos, st.takeValue ⟨t, pos⟩ = .ok (st.place v)) :
    FeedsValue l depth room v := by
  intro st rest hwants _ hends
  exact .of_reads (hread rest hends) fun pos => State.take_of_wants hwants ht (htake st pos)

theorem feeds_open {st : State} {c : Char} {t : Token} {f : Frame} {e : Expecting} (rest : List Char)
    (hc : punctuation? c = some t) (ht : t ≠ .closeList) (hwants : st.Wants)
    (htake : ∀ pos, st.takeValue ⟨t, pos⟩ = st.start f e) (hroom : st.stack.length < deepest) :
    Feeds [c] st ⟨f :: st.stack, e⟩ rest := by
  refine .of_reads (reads_punctuation hc rest) fun pos => State.take_of_wants hwants ht ?_
  rw [htake, State.start, if_neg (Nat.not_le.2 hroom)]

theorem feeds_closeList (vs : List Value) {fs : List Frame} {e : Expecting} (rest : List Char)
    (he : e = .next ∨ e = .valueOrClose) : Feeds [']'] ⟨.items vs :: fs, e⟩
      ((⟨fs, .value⟩ : State).place (.list vs.reverse)) rest := by
  refine .of_reads (reads_punctuation rfl rest) fun pos => ?_
  rw [← State.place_eq ⟨fs, e⟩]
  rcases he with rfl | rfl <;> rfl

theorem feeds_closeObject (es : List (Value × Value)) {k : Value} {fs : List Frame} {e : Expecting}
    (rest : List Char) (he : e = .next ∨ e = .keyOrClose) :
    Feeds ['\x7d'] ⟨.entries es k :: fs, e⟩ ((⟨fs, .value⟩ : State).place (.map es)) rest := by
  refine .of_reads (reads_punctuation rfl rest) fun pos => ?_
  rw [← State.place_eq ⟨fs, e⟩]
  rcases he with rfl | rfl <;> rfl

theorem feeds_enclose (hl : l.Plain) {opening closing m : String} {o c : Char} {ms : List String}
    {st st₁ st₂ st₃ st' : State} {rest : List Char} (ho : opening.toList = [o])
    (hc : closing.toList = [c]) (hends : EndsNumber [c]) (hopen : ∀ rest, Feeds [o] st st₁ rest)
    (hm : ∀ rest, EndsNumber rest → Feeds m.toList st₁ st₂ rest)
    (hms : ∀ rest, EndsNumber rest → Feeds (further l (depth + 1) ms) st₂ st₃ rest)
    (hclose : ∀ rest, Feeds [c] st₃ st' rest) :
    Feeds (l.enclose depth opening closing (m :: ms)).toList st st' rest := by
  have hend : EndsNumber ((l.lineBreak depth).toList ++ [c] ++ rest) := by
    rw [List.append_assoc]
    exact endsNumber_spaces (isSpace_lineBreak l depth) (endsNumber_cons (hends c [] rfl) rest)
  have hend' : EndsNumber (further l (depth + 1) ms ++ ((l.lineBreak depth).toList ++ [c]) ++ rest) := by
    rw [List.append_assoc]
    exact endsNumber_further _ hend
  rw [toList_enclose hl, ho, hc]
  exact (hopen _).append ((Feeds.of_spaces (isSpace_lineBreak l (depth + 1))).append
    ((hm _ hend').append ((hms _ hend).append
      ((Feeds.of_spaces (isSpace_lineBreak l depth)).append (hclose rest)))))

theorem feedsValue_list {items : List Value} (hl : l.Plain)
    (hitems : ∀ v ∈ items, FeedsValue l (depth + 1) room v) :
    FeedsValue l depth (room + 1) (.list items) := by
  intro st rest hwants hroom hends
  have hopen (rest : List Char) : Feeds ['['] st ⟨.items [] :: st.stack, .valueOrClose⟩ rest :=
    feeds_open rest rfl (by simp) hwants (fun _ => rfl) (by omega)
  rw [write, writeItems_eq, State.place_eq]
  cases items with
  | nil =>
    rw [List.map_nil, toList_enclose_nil rfl rfl]
    exact (hopen _).append (feeds_closeList [] rest (.inr rfl))
  | cons v items =>
    have hroom' : st.stack.length + 1 + room ≤ deepest := by omega
    have hclose (rest : List Char) : Feeds [']'] ⟨.items (items.reverse ++ [v]) :: st.stack, .next⟩
        ((⟨st.stack, .value⟩ : State).place (.list (v :: items))) rest := by
      rw [← List.reverse_reverse (v :: items), List.reverse_cons]
      exact feeds_closeList _ rest (.inl rfl)
    exact feeds_enclose hl rfl rfl (endsNumber_cons (by decide) []) hopen
      (fun rest h => hitems v List.mem_cons_self _ rest (.inr rfl) hroom' h)
      (fun rest h => feeds_furtherItems (fun x hx => hitems x (List.mem_cons_of_mem _ hx)) hroom' h)
      hclose

theorem feedsValue_object {members : List (String × Value)} (hl : l.Plain)
    (hkeys : (members.map Prod.fst).Nodup) (hmembers : ∀ m ∈ members, FeedsValue l (depth + 1) room m.2) :
    FeedsValue l depth (room + 1) (.object members) := by
  intro st rest hwants hroom hends
  have hopen (rest : List Char) : Feeds ['\x7b'] st ⟨.entries [] .null :: st.stack, .keyOrClose⟩ rest :=
    feeds_open rest rfl (by simp) hwants (fun _ => rfl) (by omega)
  have hobject : Value.object members = .map (keyed members) := rfl
  rw [hobject, write, writeEntries_eq, State.place_eq]
  cases members with
  | nil =>
    rw [List.map_nil, toList_enclose_nil rfl rfl]
    exact (hopen _).append (feeds_closeObject [] rest (.inr rfl))
  | cons m ms =>
    have hroom' : st.stack.length + 1 + room ≤ deepest := by omega
    obtain ⟨k, hms⟩ := feeds_furtherMembers hl [m] (.text m.1)
      (fun x hx => hmembers x (List.mem_cons_of_mem _ hx)) hkeys hroom'
    exact feeds_enclose hl rfl rfl (endsNumber_cons (by decide) []) hopen
      (fun rest h => feeds_member hl (hmembers m List.mem_cons_self) [] .null (.inr rfl) hroom' h) hms
      (fun rest => feeds_closeObject _ rest (.inl rfl))

theorem feedsValue_of_plain (hl : l.Plain) {v : Value} (h : v.Plain room) : FeedsValue l depth room v := by
  -- Induction on how the value is plain; a list or an object uses up one level of the room.
  induction h generalizing depth with
  | null => exact feedsValue_of_reads (by simp) (fun rest _ => reads_null rest) fun _ _ => rfl
  | bool b =>
    refine feedsValue_of_reads (t := .scalar (.bool b)) (by simp) (fun rest _ => ?_) fun _ _ => rfl
    have hwrite : write l depth (.bool b) = if b then "true" else "false" := by cases b <;> rfl
    rw [hwrite]
    exact reads_bool b rest
  | int h => exact feedsValue_of_reads (by simp) (fun rest hends => reads_int h hends) fun _ _ => rfl
  | text s =>
    refine feedsValue_of_reads (by simp) (fun rest _ => reads_text s rest) fun st pos => ?_
    simp only [State.takeValue, textValue_toNat]
  | list _ ih => exact feedsValue_list hl fun v hv => ih v hv
  | object hkeys _ ih => exact feedsValue_object hl hkeys fun m hm => ih m hm

end Values

theorem read_render {l : Layout} {v : Value} (hl : l.Plain) (h : v.Plain deepest) :
    read (render l v) = .ok v := by
  have hvalue : FeedsValue l 0 deepest v := feedsValue_of_plain hl h
  have hfeeds := hvalue initial [] (.inl rfl) (Nat.le_refl _) endsNumber_nil (render l v).length 0
  rw [List.append_nil] at hfeeds
  rw [read, readWith, tokens, show (render l v).toList = (write l 0 v).toList from rfl, hfeeds]
  rfl

theorem toList_render_object {l : Layout} (hl : l.Plain) (members : List (String × Value)) :
    ∃ b cs, (render l (.object members)).toList = '\x7b' :: b :: cs ∧ 0 < b.toNat ∧ b.toNat < 0x80 := by
  have hobject : Value.object members = .map (keyed members) := rfl
  rw [render, hobject, write, writeEntries_eq]
  cases members with
  | nil => exact ⟨'\x7d', [], toList_enclose_nil rfl rfl, by decide, by decide⟩
  | cons m ms =>
    rw [List.map_cons, toList_enclose hl]
    cases hbreak : (l.lineBreak (0 + 1)).toList with
    | nil =>
      have hquote : ∃ cs, (member l (0 + 1) m).toList = '"' :: cs := by
        simp only [member, textLiteral, String.toList_append, String.toList_ofList, List.cons_append]
        exact ⟨_, rfl⟩
      obtain ⟨cs, hcs⟩ := hquote
      rw [hcs]
      exact ⟨'"', _, rfl, by decide, by decide⟩
    | cons b bs =>
      refine ⟨b, _, rfl, ?_⟩
      have hb := isSpace_lineBreak l (0 + 1) b (hbreak ▸ List.mem_cons_self)
      simp only [isSpace, Bool.or_eq_true, beq_iff_eq] at hb
      rcases hb with ((rfl | rfl) | rfl) | rfl <;> exact ⟨by decide, by decide⟩

theorem readBytes_render {l : Layout} {members : List (String × Value)} (hl : l.Plain)
    (h : (Value.object members).Plain deepest) :
    readBytes (Utf8.encode (render l (.object members))) = .ok (.object members) := by
  obtain ⟨b, cs, htext, hb⟩ := toList_render_object hl members
  rw [readBytes_encode htext hb, read_render hl h]
  rfl

end Json

end BuildScripts
