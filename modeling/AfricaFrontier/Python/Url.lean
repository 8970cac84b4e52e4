import AfricaFrontier.Python.Query

/-!
# Splitting and joining URLs (`urllib.parse`)

`urlsplit` cuts a URL into scheme, authority, path, query and fragment, and `urlunsplit`
joins the five again.  What releases do differently is a parameter (`UrlHost`): which
authorities with brackets are addresses, the tables of Unicode, and what is written for an
empty authority.

A URL with an authority is cut into what it was joined from (`urlsplit_join`), provided that
no part has a character that ends it, and the parts `urlsplit` cuts are such
(`wellFormed_of_urlsplit`).

Both directions rest on a few facts about texts: a prefix of characters that pass a test is taken
off whole, a text is cut at the first occurrence of a character, and what is cut from a text is in
it. `SplitUrl.WellFormed` lists what must not occur in which part.
-/

namespace Python

/-- What differs between releases. -/
structure UrlHost where
  /-- The brackets enclose an address. -/
  bracketed : List Char → Bool
  /-- `unicodedata.normalize("NFKC", text)`. -/
  nfkc : List Char → List Char
  /-- Slashes are written in front of a path that begins with two. -/
  marksEmptyAuthority : Bool

/-- `SplitResult`. -/
structure SplitUrl where
  scheme : List Char
  netloc : List Char
  path : List Char
  query : List Char
  fragment : List Char
  deriving DecidableEq

/-! ## `urlsplit`

In the order of the source: clean the text, take off the scheme, the authority, the fragment, the
query. -/

/-- `_UNSAFE_URL_BYTES_TO_REMOVE`: the tab and the two characters that end a line. -/
def isUnsafe (c : Char) : Bool := c.toNat ∈ [0x09, 0x0d, 0x0a]

/-- The URL without control characters and spaces in front, and without the unsafe ones. -/
def cleanUrl (url : List Char) : List Char :=
  (url.dropWhile fun c => c.toNat ≤ 0x20).filter fun c => !isUnsafe c

/-- `scheme_chars`. -/
def isSchemeChar (c : Char) : Bool := c.isAlphanum || c = '+' || c = '-' || c = '.'

/-- The scheme, and what is behind the colon. -/
def splitScheme (url : List Char) : List Char × List Char :=
  let front := url.takeWhile (· ≠ ':')
  if ':' ∈ url ∧ front.head?.any Char.isAlpha = true ∧ front.all isSchemeChar = true then
    (front.map Char.toLower, (url.dropWhile (· ≠ ':')).drop 1)
  else ([], url)

/-- The authority ends before one of these. -/
def isDelimiter (c : Char) : Bool := c = '/' || c = '?' || c = '#'

/-- The authority between two slashes and the next delimiter. -/
def splitAuthority : List Char → List Char × List Char
  | '/' :: '/' :: rest =>
      (rest.takeWhile fun c => !isDelimiter c, rest.dropWhile fun c => !isDelimiter c)
  | url => ([], url)

/-- What is before the first occurrence of a character, and what is behind it. -/
def cut (c : Char) (text : List Char) : List Char × List Char :=
  (text.takeWhile (· ≠ c), (text.dropWhile (· ≠ c)).drop 1)

namespace UrlHost

/-- `_checknetloc`: no character of an authority may turn into a separator. -/
def normalizes (host : UrlHost) (netloc : List Char) : Bool :=
  let plain := netloc.filter fun c => !(c = '@' || c = ':' || c = '#' || c = '?')
  netloc.all (fun c => c.toNat < 128) || host.nfkc plain = plain ||
    (host.nfkc plain).all fun c =>
      !(c = '/' || c = '?' || c = '#' || c = '@' || c = ':')

/-- `urlsplit` does not raise a `ValueError` for the authority. -/
def accepts (host : UrlHost) (netloc : List Char) : Bool :=
  (netloc.contains '[' == netloc.contains ']') &&
    (!netloc.contains '[' || host.bracketed netloc) && host.normalizes netloc

/-- `urlsplit(url)`; `none` is a `ValueError`. -/
def urlsplit (host : UrlHost) (url : List Char) : Option SplitUrl :=
  let schemed := splitScheme (cleanUrl url)
  let authority := splitAuthority schemed.2
  let fragmented := cut '#' authority.2
  let queried := cut '?' fragmented.1
  if host.accepts authority.1 then
    some
      { scheme := schemed.1
        netloc := authority.1
        path := queried.1
        query := queried.2
        fragment := fragmented.2 }
  else none

end UrlHost

/-! ## `urlunsplit`

In the other order; a part that is empty leaves no mark. -/

/-- `uses_netloc`. -/
def usesNetloc : List (List Char) :=
  ["", "ftp", "http", "gopher", "nntp", "telnet", "imap", "wais", "file", "mms", "https",
    "shttp", "snews", "prospero", "rtsp", "rtsps", "rtspu", "rsync", "svn", "svn+ssh", "sftp",
    "nfs", "git", "git+ssh", "ws", "wss", "itms-services"].map String.toList

/-- A path behind an authority begins with a slash. -/
def rooted (path : List Char) : List Char :=
  if path ≠ [] ∧ path.head? ≠ some '/' then '/' :: path else path

/-- What is written between the scheme and the query. -/
def UrlHost.hierarchy (host : UrlHost) (parts : SplitUrl) : List Char :=
  let doubled := ['/', '/'].isPrefixOf parts.path
  if parts.netloc ≠ [] then '/' :: '/' :: (parts.netloc ++ rooted parts.path)
  else if host.marksEmptyAuthority then
    if doubled then '/' :: '/' :: parts.path
    else if parts.scheme ≠ [] ∧ parts.scheme ∈ usesNetloc ∧
        (parts.path = [] ∨ parts.path.head? = some '/') then '/' :: '/' :: parts.path
    else parts.path
  else if parts.scheme ≠ [] ∧ parts.scheme ∈ usesNetloc ∧ doubled = false then
    '/' :: '/' :: rooted parts.path
  else parts.path

/-- A part with its mark in front, or nothing for an empty part. -/
def marked (mark : Char) (part : List Char) : List Char := if part = [] then [] else mark :: part

/-- `urlunsplit(parts)`. -/
def UrlHost.urlunsplit (host : UrlHost) (parts : SplitUrl) : List Char :=
  (if parts.scheme = [] then [] else parts.scheme ++ [':']) ++ host.hierarchy parts ++
    marked '?' parts.query ++ marked '#' parts.fragment

/-! ## Cutting what was joined

Each cut is at the mark that the join has put there, since nothing in front has one. -/

section Join

variable {c : Char} {front rest : List Char}

/-- A test that holds up to here takes all of the front. -/
theorem takeWhile_append {p : Char → Bool} (hfront : ∀ d ∈ front, p d = true)
    (hrest : ∀ d ∈ rest.head?, p d = false) : (front ++ rest).takeWhile p = front := by
  rw [List.takeWhile_append_of_pos hfront]
  cases rest with
  | nil => simp
  | cons d rest => simp [hrest d rfl]

/-- A test that holds up to here drops all of the front. -/
theorem dropWhile_append {p : Char → Bool} (hfront : ∀ d ∈ front, p d = true)
    (hrest : ∀ d ∈ rest.head?, p d = false) : (front ++ rest).dropWhile p = rest := by
  rw [List.dropWhile_append_of_pos hfront]
  cases rest with
  | nil => simp
  | cons d rest => simp [hrest d rfl]

/-- Cutting at a mark gives the part in front and the marked one. -/
theorem cut_marked {part : List Char} (hfront : c ∉ front) :
    cut c (front ++ marked c part) = (front, part) := by
  have hne : ∀ d ∈ front, decide (d ≠ c) = true := by
    intro d hd
    exact decide_eq_true fun h => hfront (h ▸ hd)
  have hmark : ∀ d ∈ (marked c part).head?, decide (d ≠ c) = false := by
    intro d hd
    unfold marked at hd
    split_ifs at hd
    · cases hd
    · obtain rfl := Option.some.inj hd
      simp
  rw [cut, takeWhile_append hne hmark, dropWhile_append hne hmark]
  unfold marked
  split_ifs with hempty
  · rw [hempty]
    rfl
  · rfl

/-- Parts none of which has a character that ends it. -/
structure SplitUrl.WellFormed (parts : SplitUrl) : Prop where
  netloc : ∀ c ∈ parts.netloc, isDelimiter c = false
  /-- A path behind an authority is empty or begins with a slash. -/
  rooted : parts.netloc ≠ [] → ∀ c ∈ parts.path.head?, c = '/'
  path_fragment : '#' ∉ parts.path
  path_query : '?' ∉ parts.path
  query : '#' ∉ parts.query
  netloc_clean : ∀ c ∈ parts.netloc, isUnsafe c = false
  path_clean : ∀ c ∈ parts.path, isUnsafe c = false
  fragment_clean : ∀ c ∈ parts.fragment, isUnsafe c = false

theorem notMem_takeWhile (c : Char) (text : List Char) : c ∉ text.takeWhile (· ≠ c) := by
  intro h
  simpa using List.mem_takeWhile_imp h

/-- What is cut from a text is in it. -/
theorem mem_of_mem_cut {d : Char} {text : List Char} (h : d ∈ (cut c text).1 ∨ d ∈ (cut c text).2) :
    d ∈ text := by
  rcases h with h | h
  · exact (List.takeWhile_sublist _).mem h
  · exact (List.dropWhile_sublist _).mem (List.mem_of_mem_drop h)

/-- What is cut from a URL is in it. -/
theorem mem_of_mem_splitScheme {d : Char} {url : List Char} (h : d ∈ (splitScheme url).2) :
    d ∈ url := by
  unfold splitScheme at h
  simp only at h
  split_ifs at h
  · exact (List.dropWhile_sublist _).mem (List.mem_of_mem_drop h)
  · exact h

/-- What is cut off as an authority, and the rest, are in the URL. -/
theorem mem_of_mem_splitAuthority {d : Char} {url : List Char}
    (h : d ∈ (splitAuthority url).1 ∨ d ∈ (splitAuthority url).2) : d ∈ url := by
  unfold splitAuthority at h
  split at h
  · rename_i rest
    have hrest : d ∈ rest := by
      rcases h with h | h
      · exact (List.takeWhile_sublist _).mem h
      · exact (List.dropWhile_sublist _).mem h
    exact List.mem_cons_of_mem _ (List.mem_cons_of_mem _ hrest)
  · simpa using h

/-- A clean URL has no unsafe character. -/
theorem isUnsafe_of_mem_cleanUrl {d : Char} {url : List Char} (h : d ∈ cleanUrl url) :
    isUnsafe d = false := by
  simpa using (List.mem_filter.mp h).2

/-- An authority has no delimiter, and what is behind it begins with one. -/
theorem splitAuthority_spec (url : List Char) :
    (∀ d ∈ (splitAuthority url).1, isDelimiter d = false) ∧
      ((splitAuthority url).1 ≠ [] → ∀ d ∈ (splitAuthority url).2.head?, isDelimiter d = true) := by
  unfold splitAuthority
  split
  · rename_i rest
    refine ⟨fun d hd => by simpa using List.mem_takeWhile_imp hd, fun _ d hd => ?_⟩
    have hstop := List.head?_dropWhile_not (fun c => !isDelimiter c) rest
    rw [Option.mem_def.mp hd] at hstop
    simpa using hstop
  · simp

/-- The parts `urlsplit` cuts. -/
theorem wellFormed_of_urlsplit {host : UrlHost} {url : List Char} {parts : SplitUrl}
    (h : host.urlsplit url = some parts) : parts.WellFormed := by
  unfold UrlHost.urlsplit at h
  simp only at h
  split_ifs at h
  obtain rfl := Option.some.inj h
  obtain ⟨hnetloc, hbehind⟩ := splitAuthority_spec (splitScheme (cleanUrl url)).2
  -- every part is cut from the URL that was cleaned
  have hclean : ∀ d, d ∈ (splitAuthority (splitScheme (cleanUrl url)).2).1 ∨
      d ∈ (splitAuthority (splitScheme (cleanUrl url)).2).2 → isUnsafe d = false := by
    intro d hd
    exact isUnsafe_of_mem_cleanUrl (mem_of_mem_splitScheme (mem_of_mem_splitAuthority hd))
  have hfragment : '#' ∉ (cut '#' (splitAuthority (splitScheme (cleanUrl url)).2).2).1 :=
    notMem_takeWhile _ _
  refine
    { netloc := hnetloc
      rooted := fun hne d hd => ?_
      path_fragment := fun hd => hfragment (mem_of_mem_cut (Or.inl hd))
      path_query := notMem_takeWhile _ _
      query := fun hd => hfragment (mem_of_mem_cut (Or.inr hd))
      netloc_clean := fun d hd => hclean d (Or.inl hd)
      path_clean := fun d hd =>
        hclean d (Or.inr (mem_of_mem_cut (Or.inl (mem_of_mem_cut (Or.inl hd)))))
      fragment_clean := fun d hd => hclean d (Or.inr (mem_of_mem_cut (Or.inr hd))) }
  -- the path begins where the authority ends, and neither with a query nor a fragment
  simp only [cut, List.head?_takeWhile, Option.mem_def, Option.filter_eq_some_iff,
    decide_eq_true_eq] at hd
  obtain ⟨⟨hhead, hnumber⟩, hquestion⟩ := hd
  have hdelimiter := hbehind hne d hhead
  simpa [isDelimiter, hnumber, hquestion] using hdelimiter

/-- The authority of a URL that was cut has passed the checks. -/
theorem accepts_of_urlsplit {host : UrlHost} {url : List Char} {parts : SplitUrl}
    (h : host.urlsplit url = some parts) :
    host.accepts parts.netloc = true := by
  unfold UrlHost.urlsplit at h
  simp only at h
  split_ifs at h with haccepts
  rw [← Option.some.inj h]
  exact haccepts

/-- A text that is cut off as a scheme as it is. -/
structure IsScheme (scheme : List Char) : Prop where
  head : scheme.head?.any Char.isAlpha = true
  chars : scheme.all isSchemeChar = true
  lower : scheme.map Char.toLower = scheme

/-- A URL with an authority. -/
def joinUrl (parts : SplitUrl) : List Char :=
  parts.scheme ++ ':' :: '/' :: '/' ::
    (parts.netloc ++ (parts.path ++ marked '?' parts.query ++ marked '#' parts.fragment))

/-- What a scheme consists of ends no scheme and is not cleaned away. -/
theorem of_isSchemeChar {d : Char} (h : isSchemeChar d = true) :
    d ≠ ':' ∧ 0x20 < d.toNat ∧ isUnsafe d = false := by
  have hrange : 0x20 < d.toNat := by
    simp only [isSchemeChar, Bool.or_eq_true, decide_eq_true_eq] at h
    rcases h with ((h | rfl) | rfl) | rfl
    · exact lt_of_lt_of_le (by decide) (range_of_isAlphanum h).1
    all_goals decide
  refine ⟨?_, hrange, ?_⟩
  · rintro rfl
    exact absurd h (by decide)
  · simp only [isUnsafe, List.mem_cons, List.not_mem_nil, or_false, decide_eq_false_iff_not]
    omega

/-- A marked part has the characters of the part, and the mark. -/
theorem mem_marked {mark d : Char} {part : List Char} (h : d ∈ marked mark part) :
    d = mark ∨ d ∈ part := by
  unfold marked at h
  split_ifs at h
  · cases h
  · exact List.mem_cons.mp h

/-- Nothing in front of the fragment begins one. -/
theorem SplitUrl.WellFormed.notMem_queried {parts : SplitUrl} (h : parts.WellFormed) :
    '#' ∉ parts.path ++ marked '?' parts.query := by
  rw [List.mem_append, not_or]
  refine ⟨h.path_fragment, fun hd => ?_⟩
  rcases mem_marked hd with hmark | hd
  · exact absurd hmark (by decide)
  · exact h.query hd

/-- What an authority is followed by. -/
theorem mem_head?_marked {d : Char} {path query fragment : List Char}
    (h : d ∈ (path ++ marked '?' query ++ marked '#' fragment).head?) :
    d ∈ path.head? ∨ d = '?' ∨ d = '#' := by
  cases path with
  | cons first path => exact Or.inl (by simpa using h)
  | nil =>
      unfold marked at h
      split_ifs at h <;> simp at h <;> simp [← h]

/-- A scheme in front is clean already. -/
theorem cleanUrl_append {scheme : List Char} (hscheme : IsScheme scheme) (rest : List Char) :
    cleanUrl (scheme ++ rest) = scheme ++ rest.filter fun c => !isUnsafe c := by
  have hchars : ∀ d ∈ scheme, isSchemeChar d = true := List.all_eq_true.mp hscheme.chars
  have hfront : (scheme ++ rest).dropWhile (fun d => decide (d.toNat ≤ 0x20)) = scheme ++ rest := by
    obtain ⟨first, hfirst, -⟩ := (Option.any_eq_true _ _).mp hscheme.head
    obtain ⟨tail, htail⟩ := List.head?_eq_some_iff.mp hfirst
    have hspace : ¬ first.toNat ≤ 0x20 :=
      Nat.not_le.mpr (of_isSchemeChar (hchars first (List.mem_of_mem_head? hfirst))).2.1
    rw [htail, List.cons_append, List.dropWhile_cons_of_neg (by simpa using hspace)]
  have hkept : scheme.filter (fun c => !isUnsafe c) = scheme := by
    refine List.filter_eq_self.mpr fun d hd => ?_
    rw [(of_isSchemeChar (hchars d hd)).2.2]
    rfl
  rw [cleanUrl, hfront, List.filter_append, hkept]

/-- What is joined is clean already. -/
theorem cleanUrl_join {parts : SplitUrl} (hscheme : IsScheme parts.scheme)
    (hparts : parts.WellFormed) (hquery : ∀ d ∈ parts.query, isUnsafe d = false) :
    cleanUrl (joinUrl parts) = joinUrl parts := by
  rw [joinUrl, cleanUrl_append hscheme]
  congr 1
  refine List.filter_eq_self.mpr fun d hd => ?_
  have hclean : isUnsafe d = false := by
    simp only [List.mem_append, List.mem_cons] at hd
    rcases hd with rfl | rfl | rfl | hd | (hd | hd) | hd
    · decide
    · decide
    · decide
    · exact hparts.netloc_clean d hd
    · exact hparts.path_clean d hd
    · rcases mem_marked hd with rfl | hd
      · decide
      · exact hquery d hd
    · rcases mem_marked hd with rfl | hd
      · decide
      · exact hparts.fragment_clean d hd
  rw [hclean]
  rfl

/-- The scheme ends at the first colon. -/
theorem splitScheme_append {scheme rest : List Char} (hscheme : IsScheme scheme) :
    splitScheme (scheme ++ ':' :: rest) = (scheme, rest) := by
  have hne : ∀ d ∈ scheme, decide (d ≠ ':') = true := fun d hd =>
    decide_eq_true (of_isSchemeChar (List.all_eq_true.mp hscheme.chars d hd)).1
  have htake : (scheme ++ ':' :: rest).takeWhile (fun d => decide (d ≠ ':')) = scheme :=
    takeWhile_append hne (by simp)
  have hdrop : (scheme ++ ':' :: rest).dropWhile (fun d => decide (d ≠ ':')) = ':' :: rest :=
    dropWhile_append hne (by simp)
  simp only [splitScheme, htake, hdrop]
  rw [if_pos ⟨by simp, hscheme.head, hscheme.chars⟩, hscheme.lower]
  rfl

/-- **A URL with an authority is cut into what it was joined from.** -/
theorem urlsplit_join {host : UrlHost} {parts : SplitUrl} (hscheme : IsScheme parts.scheme)
    (hparts : parts.WellFormed) (hpath : ∀ d ∈ parts.path.head?, d = '/')
    (hquery : ∀ d ∈ parts.query, isUnsafe d = false) (haccepts : host.accepts parts.netloc) :
    host.urlsplit (joinUrl parts) = some parts := by
  have hauthority : splitAuthority ('/' :: '/' ::
      (parts.netloc ++ (parts.path ++ marked '?' parts.query ++ marked '#' parts.fragment))) =
      (parts.netloc, parts.path ++ marked '?' parts.query ++ marked '#' parts.fragment) := by
    have hne : ∀ d ∈ parts.netloc, (!isDelimiter d) = true := fun d hd => by
      rw [hparts.netloc d hd]
      rfl
    have hstop : ∀ d ∈ (parts.path ++ marked '?' parts.query ++
        marked '#' parts.fragment).head?, (!isDelimiter d) = false := by
      intro d hd
      rcases mem_head?_marked hd with hd | rfl | rfl
      · rw [hpath d hd]
        rfl
      · rfl
      · rfl
    rw [splitAuthority, takeWhile_append hne hstop, dropWhile_append hne hstop]
  unfold UrlHost.urlsplit
  rw [cleanUrl_join hscheme hparts hquery, joinUrl, splitScheme_append hscheme]
  simp only [hauthority, cut_marked hparts.notMem_queried, cut_marked hparts.path_query,
    haccepts, if_true]

/-- What follows two slashes is cut as an authority and a path behind it. -/
theorem path_of_urlsplit_join {host : UrlHost} {parts parts' : SplitUrl}
    (hscheme : IsScheme parts.scheme)
    (hparts : parts.WellFormed) (hquery : ∀ d ∈ parts.query, isUnsafe d = false)
    (hempty : parts.netloc = []) (h : host.urlsplit (joinUrl parts) = some parts')
    (hempty' : parts'.netloc = []) : parts'.path = parts.path := by
  unfold UrlHost.urlsplit at h
  rw [cleanUrl_join hscheme hparts hquery, joinUrl, splitScheme_append hscheme, hempty,
    List.nil_append] at h
  simp only [splitAuthority] at h
  split_ifs at h
  obtain rfl := Option.some.inj h
  simp only at hempty' ⊢
  -- nothing is taken for the authority, so that everything is left for the path
  have hwhole := List.takeWhile_append_dropWhile (p := fun c => !isDelimiter c)
    (l := parts.path ++ marked '?' parts.query ++ marked '#' parts.fragment)
  rw [hempty', List.nil_append] at hwhole
  rw [hwhole, cut_marked hparts.notMem_queried, cut_marked hparts.path_query]

end Join

end Python
