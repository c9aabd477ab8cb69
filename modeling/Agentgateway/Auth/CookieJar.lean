import Agentgateway.Auth.Middleware

/-!
# The browser's cookie jar

The browser side of the cookies, after RFC 6265, for one host: a cookie is stored under its name
and path, and a request carries the cookies whose path it path-matches.
-/

namespace Agentgateway.Auth

/-- A cookie the browser keeps: its name, the path it is stored under, and its value. -/
structure StoredCookie where
  /-- The name. -/
  name : String
  /-- The path. -/
  path : String
  /-- The value. -/
  value : String
  deriving DecidableEq, Repr

/-- Whether two stored cookies have one name and one path, so that one replaces the other. -/
def StoredCookie.sameKey (a b : StoredCookie) : Bool := a.name == b.name && a.path == b.path

/-! ## Paths -/

/-- The default-path of a request path (RFC 6265, 5.1.4): up to its last `/`, or `/` when that is
its first character. -/
def defaultPath (requestPath : String) : String :=
  match requestPath.data with
  | '/' :: rest =>
    if '/' ∈ rest then ⟨'/' :: ((rest.reverse.dropWhile (· != '/')).drop 1).reverse⟩ else "/"
  | _ => "/"

example : defaultPath "/auth/oauth2/github/callback" = "/auth/oauth2/github" := by decide

example : defaultPath "/callback" = "/" := by decide

/-- Whether a request path path-matches a cookie path (RFC 6265, 5.1.4): the two are equal, or the
cookie path is a prefix of it that ends in `/` or is followed by `/`. -/
def pathMatches (requestPath cookiePath : String) : Bool :=
  requestPath == cookiePath ||
    (cookiePath.data.isPrefixOf requestPath.data &&
      (cookiePath.data.getLast? == some '/' || requestPath.data[cookiePath.length]? == some '/'))

/-- The path a `Set-Cookie` is stored under (RFC 6265, 5.2.4): its `Path` when that starts with
`/`, and otherwise the default-path of the request. -/
def Cookie.storedPath (cookie : Cookie) (requestPath : String) : String :=
  match cookie.path with
  | some path => if path.data.head? = some '/' then path else defaultPath requestPath
  | none => defaultPath requestPath

/-- A cookie the browser evicts as it gets it: one with a `Max-Age` of zero or less. -/
def Cookie.expired (cookie : Cookie) : Bool :=
  cookie.maxAge.any fun age => decide (age ≤ 0)

@[simp] theorem removalCookie_expired (name : String) :
    (Cookies.removalCookie name).expired = true := rfl

@[simp] theorem removalCookie_storedPath (name requestPath : String) :
    (Cookies.removalCookie name).storedPath requestPath = defaultPath requestPath := rfl

/-- What the jar keeps of a `Set-Cookie` received for `requestPath`. -/
def Cookie.stored (cookie : Cookie) (requestPath : String) : StoredCookie :=
  ⟨cookie.name, cookie.storedPath requestPath, cookie.value⟩

/-! ## Receiving cookies -/

/-- The jar after storing `entry` (RFC 6265, 5.3): it takes the place of the cookie of its name and
path, keeping that cookie's place in the creation order, or else comes last. -/
def storeCookie (jar : List StoredCookie) (entry : StoredCookie) : List StoredCookie :=
  if jar.any (·.sameKey entry) then jar.map fun e => if e.sameKey entry then entry else e
  else jar ++ [entry]

/-- The jar after a `Set-Cookie` received for `requestPath`: an expired cookie evicts the cookie of
its name and path, and any other is stored. -/
def receiveCookie (requestPath : String) (jar : List StoredCookie) (cookie : Cookie) :
    List StoredCookie :=
  if cookie.expired then jar.filter (!·.sameKey (cookie.stored requestPath))
  else storeCookie jar (cookie.stored requestPath)

/-- The jar after the response to a request for `requestPath`. -/
def Cookies.settle (cookies : Cookies) (requestPath : String) (jar : List StoredCookie) :
    List StoredCookie :=
  cookies.setCookies.foldl (receiveCookie requestPath) jar

theorem mem_storeCookie {jar : List StoredCookie} {entry e : StoredCookie}
    (stored : e ∈ storeCookie jar entry) : e = entry ∨ (e ∈ jar ∧ e.sameKey entry = false) := by
  unfold storeCookie at stored
  cases present : jar.any (·.sameKey entry)
  · rw [present, if_neg Bool.false_ne_true] at stored
    rcases List.mem_append.mp stored with kept | added
    · exact .inr ⟨kept, by simpa using List.any_eq_false.mp present e kept⟩
    · exact .inl (List.mem_singleton.mp added)
  · rw [present, if_pos rfl] at stored
    obtain ⟨old, kept, rfl⟩ := List.mem_map.mp stored
    by_cases same : old.sameKey entry <;> simp [same, kept]

theorem mem_storeCookie_of_ne {jar : List StoredCookie} {entry e : StoredCookie} (kept : e ∈ jar)
    (other : e.sameKey entry = false) : e ∈ storeCookie jar entry := by
  unfold storeCookie
  split
  · exact List.mem_map.mpr ⟨e, kept, by simp [other]⟩
  · exact List.mem_append_left _ kept

/-- After a `Set-Cookie`, the jar holds the old cookies and what it kept of the new one. -/
theorem mem_receiveCookie {requestPath : String} {jar : List StoredCookie} {cookie : Cookie}
    {e : StoredCookie} (received : e ∈ receiveCookie requestPath jar cookie) :
    (e ∈ jar ∧ e.sameKey (cookie.stored requestPath) = false) ∨
      (cookie.expired = false ∧ e = cookie.stored requestPath) := by
  unfold receiveCookie at received
  split at received
  · simp only [List.mem_filter, Bool.not_eq_true'] at received
    exact .inl received
  · next fresh =>
    rcases mem_storeCookie received with rfl | kept
    · exact .inr ⟨Bool.eq_false_iff.mpr fresh, rfl⟩
    · exact .inl kept

theorem mem_receiveCookie_of_ne {requestPath : String} {jar : List StoredCookie} {cookie : Cookie}
    {e : StoredCookie} (kept : e ∈ jar) (other : e.sameKey (cookie.stored requestPath) = false) :
    e ∈ receiveCookie requestPath jar cookie := by
  unfold receiveCookie
  split
  · exact List.mem_filter.mpr ⟨kept, by simp [other]⟩
  · exact mem_storeCookie_of_ne kept other

/-- After a response, every cookie of the jar was there before, and no `Set-Cookie` of the response
named it with its path, or the response added it. -/
theorem mem_settle {cookies : Cookies} {requestPath : String} {jar : List StoredCookie}
    {e : StoredCookie} (settled : e ∈ cookies.settle requestPath jar) :
    (e ∈ jar ∧ ∀ c ∈ cookies.setCookies, e.sameKey (c.stored requestPath) = false) ∨
      ∃ cookie, .add cookie ∈ cookies.delta ∧ cookie.expired = false ∧
        e = cookie.stored requestPath := by
  unfold Cookies.settle at settled
  suffices ∀ (sent : List Cookie) (jar : List StoredCookie), (∀ c ∈ sent, c ∈ cookies.setCookies) →
      e ∈ sent.foldl (receiveCookie requestPath) jar →
      (e ∈ jar ∧ ∀ c ∈ sent, e.sameKey (c.stored requestPath) = false) ∨
        ∃ cookie, .add cookie ∈ cookies.delta ∧ cookie.expired = false ∧
          e = cookie.stored requestPath from this _ jar (fun _ => id) settled
  intro sent
  induction sent with
  | nil => exact fun jar _ kept => .inl ⟨kept, fun _ none => nomatch none⟩
  | cons c rest ih =>
      intro jar fromResponse settled
      rcases ih _ (fun c' mem => fromResponse c' (List.mem_cons_of_mem _ mem)) settled with
        ⟨kept, untouched⟩ | added
      · rcases mem_receiveCookie kept with ⟨old, other⟩ | ⟨fresh, rfl⟩
        · exact .inl ⟨old, List.forall_mem_cons.mpr ⟨other, untouched⟩⟩
        · rcases Cookies.mem_setCookies (fromResponse c (List.mem_cons_self _ _)) with
            added | ⟨name, rfl⟩
          · exact .inr ⟨c, added, fresh, rfl⟩
          · cases fresh
      · exact .inr added

/-- A response leaves every cookie that none of its `Set-Cookie`s names with the cookie's path. -/
theorem mem_settle_of_untouched {cookies : Cookies} {requestPath : String}
    {jar : List StoredCookie} {e : StoredCookie} (kept : e ∈ jar)
    (untouched : ∀ c ∈ cookies.setCookies, e.sameKey (c.stored requestPath) = false) :
    e ∈ cookies.settle requestPath jar := by
  unfold Cookies.settle
  generalize cookies.setCookies = sent at untouched
  induction sent generalizing jar with
  | nil => exact kept
  | cons c rest ih =>
      exact ih (mem_receiveCookie_of_ne kept (untouched c (List.mem_cons_self _ _)))
        fun c' mem => untouched c' (List.mem_cons_of_mem _ mem)

/-! ## Sending cookies -/

/-- `entry` placed among cookies sorted longest path first, after those with a path as long. -/
def insertByPath (entry : StoredCookie) : List StoredCookie → List StoredCookie
  | [] => [entry]
  | e :: rest =>
    if e.path.length < entry.path.length then entry :: e :: rest else e :: insertByPath entry rest

/-- The `Cookie` header of a request for `requestPath` (RFC 6265, 5.4): the jar's cookies whose
path it path-matches, longer paths first, and older first among paths as long. -/
def cookieHeader (requestPath : String) (jar : List StoredCookie) : List (String × String) :=
  ((jar.filter (pathMatches requestPath ·.path)).foldl (fun sorted e => insertByPath e sorted)
    []).map fun e => (e.name, e.value)

@[simp] theorem mem_insertByPath {entry e : StoredCookie} {sorted : List StoredCookie} :
    e ∈ insertByPath entry sorted ↔ e = entry ∨ e ∈ sorted := by
  induction sorted with
  | nil => simp [insertByPath]
  | cons head rest ih =>
      unfold insertByPath
      split <;> simp [ih, or_left_comm]

theorem mem_foldl_insertByPath {e : StoredCookie} (entries sorted : List StoredCookie) :
    e ∈ entries.foldl (fun sorted entry => insertByPath entry sorted) sorted ↔
      e ∈ sorted ∨ e ∈ entries := by
  induction entries generalizing sorted with
  | nil => simp
  | cons entry rest ih => rw [List.foldl_cons, ih, mem_insertByPath, List.mem_cons]; tauto

/-- A cookie a request carries is one of the jar's, on a path the request path-matches. -/
theorem mem_cookieHeader {requestPath name value : String} {jar : List StoredCookie}
    (sent : (name, value) ∈ cookieHeader requestPath jar) :
    ∃ e ∈ jar, e.name = name ∧ e.value = value ∧ pathMatches requestPath e.path = true := by
  obtain ⟨e, member, same⟩ := List.mem_map.mp sent
  obtain ⟨kept, onPath⟩ :=
    List.mem_filter.mp (((mem_foldl_insertByPath _ []).mp member).resolve_left nofun)
  cases same
  exact ⟨e, kept, rfl, rfl, onPath⟩

theorem mem_of_lookup_eq_some {entries : List (String × String)} {name value : String}
    (found : entries.lookup name = some value) : (name, value) ∈ entries := by
  induction entries with
  | nil => cases found
  | cons entry rest ih =>
      obtain ⟨key, v⟩ := entry
      by_cases same : name = key
      · subst same
        simp only [List.lookup_cons_self, Option.some.injEq] at found
        exact found ▸ List.mem_cons_self _ _
      · rw [List.lookup_cons, beq_false_of_ne same] at found
        exact List.mem_cons_of_mem _ (ih found)

/-- What the server reads of a cookie from a request is the value of one of the jar's cookies of
that name. -/
theorem get_cookieHeader {requestPath name value : String} {jar : List StoredCookie}
    (read : (⟨cookieHeader requestPath jar, []⟩ : Cookies).get name = some value) :
    ∃ e ∈ jar, e.name = name ∧ e.value = value := by
  obtain ⟨e, kept, named, valued, -⟩ :=
    mem_cookieHeader (List.mem_reverse.mp (mem_of_lookup_eq_some read))
  exact ⟨e, kept, named, valued⟩

end Agentgateway.Auth
