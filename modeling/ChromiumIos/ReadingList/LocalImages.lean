import ChromiumIos.Lib.Loop
import ChromiumIos.Lib.Replacement

/-!
# The images of a distilled page

`url_downloader.cc`: the images of a page are saved in its directory, and their URLs in the page
give way to the names of the files. A `std::string` is the list of its characters.

- `saveAndReplaceImagesInHTML`: the loop over the images, with at most `n` rounds of the loop that
  replaces the URL of each.
- `replaceRound_ends`: that loop ends if the URL is not empty, and has replaced all occurrences.
- `Piece`, `Separated`: a page in which the URLs of the images occur as pieces of their own.
- `Quoted.separated`: they do so between quotes.
- `saveAndReplaceImagesInHTML_of_separated`: then just these pieces are replaced.
-/

namespace ChromiumIos

open Lib List

/-- `DistillerViewerInterface::ImageInfo`. -/
structure ImageInfo (URL : Type) where
  url : URL
  data : List Char
deriving DecidableEq, Repr

/-- The files in the directory of a page, and `saved_size_`. -/
structure OfflineDirectory where
  files : List (List Char)
  savedSize : Int
deriving DecidableEq, Repr

/-- What `GURL`, `net` and `base` have for images. -/
structure ImageUtils (URL : Type) where
  /-- `SchemeIs(url::kDataScheme)`. -/
  schemeIsData : URL → Bool
  schemeIsCryptographic : URL → Bool
  isValid : URL → Bool
  spec : URL → List Char
  escapeForHTML : List Char → List Char
  md5String : List Char → List Char
  /-- The number of bytes that are written, or -1. -/
  writeFile : OfflineDirectory → (file data : List Char) → Int

namespace LocalImages

/-- This script disables context menu on img elements. -/
def kDisableImageContextMenuScript : List Char :=
  ("<script>" ++
    "document.addEventListener('DOMContentLoaded', function (event) \x7b" ++
    "    var imgMenuDisabler = document.createElement('style');" ++
    "    imgMenuDisabler.innerHTML = 'img \x7b -webkit-touch-callout: none; \x7d';" ++
    "    document.head.appendChild(imgMenuDisabler);" ++
    "\x7d, false);" ++
    "</script>").toList

variable {URL : Type} (utils : ImageUtils URL) (distilledURL : URL)

/-! ## One image -/

/-- `SaveImage`: the name of the file, unless it cannot be written. -/
def saveImage (image : ImageInfo URL) (directory : OfflineDirectory) :
    Option (List Char × OfflineDirectory) :=
  let imageHash := utils.md5String (utils.spec image.url)
  if imageHash ∈ directory.files then some (imageHash, directory)
  else
    let written := utils.writeFile directory imageHash image.data
    if written ≤ 0 then none
    else some (imageHash, ⟨imageHash :: directory.files, directory.savedSize + written⟩)

def imageURL (image : ImageInfo URL) : List Char := utils.escapeForHTML (utils.spec image.url)

/-- Mixed content is HTTP images on HTTPS pages. -/
def imageIsMixedContent (image : ImageInfo URL) : Bool :=
  utils.schemeIsCryptographic distilledURL && !utils.schemeIsCryptographic image.url

/-- Only save images if it is not mixed content and image data is valid. -/
def isSaved (image : ImageInfo URL) : Bool :=
  !imageIsMixedContent utils distilledURL image && utils.isValid image.url && !image.data.isEmpty

/-- The local name of an image, empty if it is not saved. -/
def saveIfNeeded (image : ImageInfo URL) (directory : OfflineDirectory) :
    Option (List Char × OfflineDirectory) :=
  if isSaved utils distilledURL image then saveImage utils image directory
  else some ([], directory)

/-- The variables of the loop that replaces the URL of an image. -/
structure Replacing where
  mutableHTML : List Char
  localImagesFound : Bool
  pos : Option Nat
deriving DecidableEq, Repr

def replaceRound (imageURL localImageName : List Char) : Loop Replacing (List Char × Bool)
  | ⟨mutableHTML, localImagesFound, none⟩ => .inl (mutableHTML, localImagesFound)
  | ⟨mutableHTML, _, some pos⟩ =>
    let replaced :=
      mutableHTML.take pos ++ localImageName ++ mutableHTML.drop (pos + imageURL.length)
    .inr ⟨replaced, true, findFrom imageURL replaced (pos + localImageName.length)⟩

/-! ## All images -/

/-- The page, with the script if it shows a local image. -/
def withScript (text : List Char × Bool) : List Char :=
  if text.2 then text.1 ++ kDisableImageContextMenuScript else text.1

/-- The images from one on. There is no result if a loop takes more than `n` rounds. -/
def replaceImages (n : Nat) : List (ImageInfo URL) → OfflineDirectory → (text : List Char × Bool) →
    Option (List Char × OfflineDirectory)
  | [], directory, text => some (withScript text, directory)
  | image :: images, directory, text =>
    -- Data URI, the data part of the image is empty, no need to store it.
    if utils.schemeIsData image.url then replaceImages n images directory text
    else
      match saveIfNeeded utils distilledURL image directory with
      | none => some ([], directory)
      | some (localImageName, directory') =>
        match (replaceRound (imageURL utils image) localImageName).rounds n
            ⟨text.1, text.2, findFrom (imageURL utils image) text.1 0⟩ with
        | none => none
        | some text' => replaceImages n images directory' text'

def saveAndReplaceImagesInHTML (n : Nat) (html : List Char) (images : List (ImageInfo URL))
    (directory : OfflineDirectory) : Option (List Char × OfflineDirectory) :=
  replaceImages utils distilledURL n images directory (html, false)

/-! ## The loop for one image -/

section Round

variable {url : List Char}

/-- By induction on what is left of the page: each round leaves less. -/
theorem replaceRound_ends (hurl : url ≠ []) (name done rest : List Char) (found : Bool) :
    (replaceRound url name).Ends
      ⟨done ++ rest, found, findFrom url (done ++ rest) done.length⟩
      (done ++ replaceAll url name rest, found || (findText url rest).isSome) := by
  induction hlength : rest.length using Nat.strong_induction_on generalizing done rest found with
  | _ length ih =>
    rw [findFrom_append]
    cases hfind : findText url rest with
    | none =>
      refine ⟨1, Loop.rounds_inl ?_ 0⟩
      rw [replaceAll_of_none hfind, Option.isSome_none, Bool.or_false]
      rfl
    | some pos =>
      obtain ⟨before, after, rfl, rfl, hnone⟩ := findText_eq_some hfind
      have hsize : 0 < url.length := length_pos_iff.2 hurl
      have hless : after.length < length := by
        rw [← hlength, length_append, length_append]
        omega
      obtain ⟨n, hn⟩ := ih after.length hless (done ++ before ++ name) after true rfl
      have htext : done ++ (before ++ (url ++ after)) = done ++ before ++ url ++ after := by
        rw [append_assoc, append_assoc]
      have hpos : before.length + done.length = (done ++ before).length := by
        rw [length_append, Nat.add_comm]
      have hround : replaceRound url name
          ⟨done ++ before ++ url ++ after, found, some (done ++ before).length⟩ =
            .inr ⟨done ++ before ++ name ++ after, true,
              findFrom url (done ++ before ++ name ++ after) (done ++ before ++ name).length⟩ := by
        rw [replaceRound, ← length_append, drop_left, ← length_append,
          append_assoc (done ++ before), take_left]
      refine ⟨n + 1, ?_⟩
      rw [Option.map_some, htext, hpos, Loop.rounds_inr hround, hn, replaceAll_first hurl hnone,
        Option.isSome_some, Bool.or_true, Bool.true_or, append_assoc, append_assoc]

/-- An empty URL is found again where it has been replaced by nothing. -/
theorem replaceRound_not_ends (text : List Char) (found : Bool) (result : List Char × Bool) :
    ¬(replaceRound [] []).Ends ⟨text, found, findFrom [] text 0⟩ result := by
  have hfound : ∀ text : List Char, findFrom [] text 0 = some 0 := by
    intro text
    cases text <;> simp [findFrom, findText]
  refine Loop.not_ends_of_invariant (I := fun state => state.pos = some 0) ?_ (hfound text)
  rintro ⟨text, found, pos⟩ hpos
  obtain rfl : pos = some 0 := hpos
  exact ⟨_, rfl, hfound _⟩

end Round

/-! ## The result -/

/-- The images that are not data URIs. -/
def remoteImages (images : List (ImageInfo URL)) : List (ImageInfo URL) :=
  images.filter fun image => !utils.schemeIsData image.url

def localName (image : ImageInfo URL) : List Char :=
  if isSaved utils distilledURL image then utils.md5String (utils.spec image.url) else []

/-- Whether all images that are to be saved can be written. -/
def allSaved : List (ImageInfo URL) → OfflineDirectory → Bool
  | [], _ => true
  | image :: images, directory =>
    match saveIfNeeded utils distilledURL image directory with
    | none => false
    | some (_, directory') => allSaved images directory'

/-- All occurrences of the URL of an image, and whether there is one. -/
def replaceImage (text : List Char × Bool) (image : ImageInfo URL) : List Char × Bool :=
  (replaceAll (imageURL utils image) (localName utils distilledURL image) text.1,
    text.2 || (findText (imageURL utils image) text.1).isSome)

section Run

variable {utils : ImageUtils URL} {distilledURL : URL}

theorem name_of_saveImage {image : ImageInfo URL} {directory directory' : OfflineDirectory}
    {name : List Char} (h : saveImage utils image directory = some (name, directory')) :
    name = utils.md5String (utils.spec image.url) := by
  rw [saveImage] at h
  dsimp only at h
  split at h
  · exact (Prod.mk.inj (Option.some.inj h)).1.symm
  · split at h
    · cases h
    · exact (Prod.mk.inj (Option.some.inj h)).1.symm

theorem name_of_saveIfNeeded {image : ImageInfo URL} {directory directory' : OfflineDirectory}
    {name : List Char}
    (h : saveIfNeeded utils distilledURL image directory = some (name, directory')) :
    name = localName utils distilledURL image := by
  rw [saveIfNeeded] at h
  rw [localName]
  split at h
  · next hsaved => rw [if_pos hsaved, name_of_saveImage h]
  · next hsaved =>
    rw [if_neg hsaved]
    exact (Prod.mk.inj (Option.some.inj h)).1.symm

/-- One image whose loop ends. -/
theorem replaceImages_cons {n : Nat} {image : ImageInfo URL} {images : List (ImageInfo URL)}
    {directory directory' : OfflineDirectory} {name : List Char} {text text' : List Char × Bool}
    (hdata : utils.schemeIsData image.url = false)
    (hsave : saveIfNeeded utils distilledURL image directory = some (name, directory'))
    (hrounds : (replaceRound (imageURL utils image) name).rounds n
      ⟨text.1, text.2, findFrom (imageURL utils image) text.1 0⟩ = some text') :
    replaceImages utils distilledURL n (image :: images) directory text =
      replaceImages utils distilledURL n images directory' text' := by
  have hdata' : ¬ utils.schemeIsData image.url = true := by simp [hdata]
  rw [replaceImages, if_neg hdata', hsave]
  dsimp only
  rw [hrounds]

variable (distilledURL) in
/-- Image by image, all occurrences are replaced in what the images before have left. -/
theorem replaceImages_ends {images : List (ImageInfo URL)}
    (hurl : ∀ image ∈ remoteImages utils images, imageURL utils image ≠ [])
    (directory : OfflineDirectory) (text : List Char × Bool) :
    ∃ n directory', ∀ m ≥ n, replaceImages utils distilledURL m images directory text =
      some (if allSaved utils distilledURL (remoteImages utils images) directory then
          withScript ((remoteImages utils images).foldl (replaceImage utils distilledURL) text)
        else [], directory') := by
  induction images generalizing directory text with
  | nil => exact ⟨0, directory, fun _ _ => rfl⟩
  | cons image images ih =>
    cases hdata : utils.schemeIsData image.url with
    | true =>
      have hremote : remoteImages utils (image :: images) = remoteImages utils images :=
        filter_cons_of_neg (by simp [hdata])
      rw [hremote] at hurl ⊢
      obtain ⟨n, directory', hn⟩ := ih hurl directory text
      refine ⟨n, directory', fun m hm => ?_⟩
      rw [replaceImages, if_pos hdata]
      exact hn m hm
    | false =>
      have hremote : remoteImages utils (image :: images) = image :: remoteImages utils images :=
        filter_cons_of_pos (by simp [hdata])
      rw [hremote] at hurl ⊢
      obtain ⟨himage, hurl⟩ := forall_mem_cons.1 hurl
      cases hsave : saveIfNeeded utils distilledURL image directory with
      | none =>
        refine ⟨0, directory, fun m _ => ?_⟩
        rw [replaceImages, if_neg (by simp [hdata]), hsave, allSaved, hsave]
        rfl
      | some saved =>
        obtain ⟨name, directory'⟩ := saved
        obtain rfl := name_of_saveIfNeeded hsave
        obtain ⟨n, hn⟩ := replaceRound_ends himage (localName utils distilledURL image) []
          text.1 text.2
        obtain ⟨k, directory'', hk⟩ :=
          ih hurl directory' (replaceImage utils distilledURL text image)
        refine ⟨max n k, directory'', fun m hm => ?_⟩
        have hround := Loop.rounds_mono (Nat.le_trans (Nat.le_max_left n k) hm) hn
        rw [nil_append, nil_append, length_nil] at hround
        rw [replaceImages_cons hdata hsave hround, allSaved, hsave, foldl_cons]
        exact hk m (Nat.le_trans (Nat.le_max_right n k) hm)

end Run

/-! ## Pages in pieces -/

/-- A piece of a page: other text, or the URL of an image. -/
inductive Piece (URL : Type)
  | text (contents : List Char)
  | image (image : ImageInfo URL)
deriving DecidableEq, Repr

section Pieces

variable [DecidableEq URL]

/-- A piece when the URLs of some images have been replaced. -/
def pieceText (replaced : List (ImageInfo URL)) : Piece URL → List Char
  | .text contents => contents
  | .image image =>
    if image ∈ replaced then localName utils distilledURL image else imageURL utils image

/-- The page, and whether it shows one of these images. -/
def pageText (pieces : List (Piece URL)) (replaced : List (ImageInfo URL)) : List Char × Bool :=
  ((pieces.map (pieceText utils distilledURL replaced)).flatten,
    replaced.any fun image => Piece.image image ∈ pieces)

/-- At the turn of an image: the pieces that stand for its URL are `none`. -/
def pieceAtTurn (replaced : List (ImageInfo URL)) (image : ImageInfo URL) (piece : Piece URL) :
    Option (List Char) :=
  if piece = .image image ∧ image ∉ replaced then none
  else some (pieceText utils distilledURL replaced piece)

/-- At the turn of each image its URL occurs only as pieces that are this image. -/
def Separated (images : List (ImageInfo URL)) (pieces : List (Piece URL)) : Prop :=
  ∀ before image after, images = before ++ image :: after →
    Separates (imageURL utils image) (pieces.map (pieceAtTurn utils distilledURL before image))

variable {utils : ImageUtils URL} {distilledURL : URL} {pieces : List (Piece URL)}

variable (replaced : List (ImageInfo URL))

theorem joinPieces_atTurn (image : ImageInfo URL) :
    joinPieces (imageURL utils image)
        (pieces.map (pieceAtTurn utils distilledURL replaced image)) =
      (pageText utils distilledURL pieces replaced).1 := by
  rw [joinPieces, map_map, pageText]
  refine congrArg flatten (map_congr_left fun piece _ => ?_)
  rw [Function.comp_apply, pieceAtTurn]
  split
  · next h => rw [h.1, pieceText, if_neg h.2, Option.getD_none]
  · rw [Option.getD_some]

theorem joinPieces_afterTurn (image : ImageInfo URL) :
    joinPieces (localName utils distilledURL image)
        (pieces.map (pieceAtTurn utils distilledURL replaced image)) =
      (pageText utils distilledURL pieces (replaced ++ [image])).1 := by
  rw [joinPieces, map_map, pageText]
  refine congrArg flatten (map_congr_left fun piece _ => ?_)
  rw [Function.comp_apply, pieceAtTurn]
  split
  · next h =>
    rw [h.1, pieceText, if_pos (mem_append_right replaced mem_cons_self),
      Option.getD_none]
  · next h =>
    rw [Option.getD_some]
    cases piece with
    | text contents => rfl
    | image other =>
      by_cases hother : other = image
      · subst hother
        have hmem : other ∈ replaced := by
          by_contra hmem
          exact h ⟨rfl, hmem⟩
        rw [pieceText, pieceText, if_pos hmem, if_pos (mem_append_left _ hmem)]
      · have hmem : other ∈ replaced ++ [image] ↔ other ∈ replaced := by
          rw [mem_append, mem_singleton, or_iff_left hother]
        rw [pieceText, pieceText]
        simp only [hmem]

/-- One turn. -/
theorem replaceImage_pageText {replaced : List (ImageInfo URL)} {image : ImageInfo URL}
    (hurl : imageURL utils image ≠ [])
    (hsep : Separates (imageURL utils image)
      (pieces.map (pieceAtTurn utils distilledURL replaced image))) :
    replaceImage utils distilledURL (pageText utils distilledURL pieces replaced) image =
      pageText utils distilledURL pieces (replaced ++ [image]) := by
  have hfound : (findText (imageURL utils image)
      (pageText utils distilledURL pieces replaced).1).isSome = true ↔
        Piece.image image ∈ pieces ∧ image ∉ replaced := by
    rw [← joinPieces_atTurn, findText_joinPieces hsep, mem_map]
    constructor
    · rintro ⟨piece, hpiece, hnone⟩
      rw [pieceAtTurn] at hnone
      split at hnone
      · next h => exact ⟨h.1 ▸ hpiece, h.2⟩
      · cases hnone
    · rintro ⟨hpiece, hmem⟩
      exact ⟨_, hpiece, if_pos ⟨rfl, hmem⟩⟩
  refine Prod.ext ?_ (Bool.eq_iff_iff.2 ?_)
  · rw [replaceImage, ← joinPieces_atTurn, replaceAll_joinPieces hurl hsep, joinPieces_afterTurn]
  · rw [replaceImage, Bool.or_eq_true, hfound, pageText, pageText, any_append,
      Bool.or_eq_true, any_eq_true, any_cons, any_nil, Bool.or_false,
      decide_eq_true_iff]
    constructor
    · rintro (hbefore | ⟨hpiece, -⟩)
      · exact .inl hbefore
      · exact .inr hpiece
    · rintro (hbefore | hpiece)
      · exact .inl hbefore
      · by_cases hmem : image ∈ replaced
        · exact .inl ⟨image, hmem, decide_eq_true hpiece⟩
        · exact .inr ⟨hpiece, hmem⟩

/-- All turns, from one on. -/
theorem foldl_replaceImage_pageText {images : List (ImageInfo URL)}
    (hurl : ∀ image ∈ images, imageURL utils image ≠ [])
    (hsep : ∀ before image after, images = before ++ image :: after →
      Separates (imageURL utils image)
        (pieces.map (pieceAtTurn utils distilledURL (replaced ++ before) image))) :
    images.foldl (replaceImage utils distilledURL) (pageText utils distilledURL pieces replaced) =
      pageText utils distilledURL pieces (replaced ++ images) := by
  induction images generalizing replaced with
  | nil => rw [foldl_nil, append_nil]
  | cons image images ih =>
    obtain ⟨himage, hurl⟩ := forall_mem_cons.1 hurl
    have hfirst := hsep [] image images rfl
    rw [append_nil] at hfirst
    rw [foldl_cons, replaceImage_pageText himage hfirst, ih _ hurl, append_assoc,
      singleton_append]
    rintro before other after rfl
    have hlater := hsep (image :: before) other after rfl
    rwa [← singleton_append, ← append_assoc] at hlater

variable (utils distilledURL) in
/-- The pieces are divided by a character that the URLs do not have, as the quotes around the value
of an attribute, and no URL occurs in another piece or in a local name. -/
structure Quoted (quote : Char) (images : List (ImageInfo URL)) (pieces : List (Piece URL)) :
    Prop where
  shown : ∀ image, Piece.image image ∈ pieces → image ∈ images
  quote : ∀ image ∈ images, quote ∉ imageURL utils image
  texts : ∀ image ∈ images, ∀ contents, Piece.text contents ∈ pieces →
    ¬ imageURL utils image <:+: contents
  urls : ∀ image ∈ images, ∀ other ∈ images, other ≠ image →
    ¬ imageURL utils image <:+: imageURL utils other
  names : ∀ image ∈ images, ∀ other ∈ images,
    ¬ imageURL utils image <:+: localName utils distilledURL other

omit [DecidableEq URL] in
theorem Quoted.url_ne_nil {quote : Char} {images : List (ImageInfo URL)}
    (h : Quoted utils distilledURL quote images pieces) {image : ImageInfo URL}
    (himage : image ∈ images) : imageURL utils image ≠ [] := by
  intro hnil
  refine h.names image himage image himage ?_
  rw [hnil]
  exact nil_infix

theorem Quoted.separated {quote : Char} {images : List (ImageInfo URL)}
    (h : Quoted utils distilledURL quote images pieces) :
    Separated utils distilledURL images (pieces.intersperse (.text [quote])) := by
  rintro before image after rfl
  have himage : image ∈ before ++ image :: after :=
    mem_append_right before mem_cons_self
  rw [map_intersperse]
  refine separates_intersperse (h.quote image himage) (h.url_ne_nil himage) fun text htext => ?_
  obtain ⟨piece, hpiece, heq⟩ := mem_map.1 htext
  rw [pieceAtTurn] at heq
  split at heq
  · cases heq
  · next hturn =>
    obtain rfl := Option.some.inj heq
    cases piece with
    | text contents => exact h.texts image himage contents hpiece
    | image other =>
      have hother := h.shown other hpiece
      rw [pieceText]
      split
      · exact h.names image himage other hother
      · next hmem =>
        refine h.urls image himage other hother fun heq => ?_
        subst heq
        exact hturn ⟨rfl, hmem⟩

variable (distilledURL) in
/-- The function ends unless the URL of an image is empty. It gives nothing where an image that is
to be saved cannot be written. Else, where the URLs of the images are pieces of their own, as they
are between quotes, these give way to the local names, and nothing else changes but for the
script. -/
theorem saveAndReplaceImagesInHTML_of_separated {images : List (ImageInfo URL)}
    (hurl : ∀ image ∈ remoteImages utils images, imageURL utils image ≠ []) :
    (∀ html directory, ∃ n result directory',
      (∀ m ≥ n, saveAndReplaceImagesInHTML utils distilledURL m html images directory =
        some (result, directory')) ∧
      (allSaved utils distilledURL (remoteImages utils images) directory = false →
        result = []) ∧
      (allSaved utils distilledURL (remoteImages utils images) directory = true →
        ∀ pieces, Separated utils distilledURL (remoteImages utils images) pieces →
          html = (pageText utils distilledURL pieces []).1 →
            result = withScript
              (pageText utils distilledURL pieces (remoteImages utils images)))) ∧
    ∀ quote pieces, Quoted utils distilledURL quote (remoteImages utils images) pieces →
      Separated utils distilledURL (remoteImages utils images)
        (pieces.intersperse (.text [quote])) := by
  refine ⟨fun html directory => ?_, fun quote pieces hquoted => hquoted.separated⟩
  obtain ⟨n, directory', hn⟩ := replaceImages_ends distilledURL hurl directory (html, false)
  refine ⟨n, _, directory', hn, fun hsaved => ?_, fun hsaved pieces hsep hhtml => ?_⟩
  · rw [hsaved]
    rfl
  · rw [if_pos hsaved, hhtml]
    exact congrArg withScript (foldl_replaceImage_pageText [] hurl hsep)

end Pieces

/-! ## Two pages -/

/-- The URLs of the pages below, and the files of their images. -/
def demoUtils : ImageUtils String where
  schemeIsData url := "data:".toList.isPrefixOf url.toList
  schemeIsCryptographic url := "https:".toList.isPrefixOf url.toList
  isValid url := ':' ∈ url.toList
  spec url := if ':' ∈ url.toList then url.toList else []
  escapeForHTML text := text.flatMap fun c => if c = '&' then "&amp;".toList else [c]
  md5String text :=
    if text = "http://a/x.png".toList then "4d74e5311f4b44815e214a196629912a".toList
    else "2d29de93e8864d778d7acc6bff10fe36".toList
  writeFile _ _ data := data.length

def demoImages : List (ImageInfo String) :=
  [⟨"http://a/x.png", "PNG".toList⟩, ⟨"data:,", []⟩, ⟨"http://a/x?k&l", []⟩]

def demoPieces : List (Piece String) :=
  [.text "<img src=".toList, .image ⟨"http://a/x.png", "PNG".toList⟩, .text "><img src=".toList,
    .image ⟨"http://a/x?k&l", []⟩, .text ">".toList]

theorem demoPieces_quoted :
    Quoted demoUtils "http://a/" '"' (remoteImages demoUtils demoImages) demoPieces where
  shown := by
    intro image himage
    have hmem : image ∈ [(⟨"http://a/x.png", "PNG".toList⟩ : ImageInfo String),
        ⟨"http://a/x?k&l", []⟩] := by
      simpa [demoPieces] using himage
    exact hmem
  quote := by decide +kernel
  texts := by
    have htexts : ∀ image ∈ remoteImages demoUtils demoImages,
        ∀ contents ∈ ["<img src=".toList, "><img src=".toList, ">".toList],
          ¬ imageURL demoUtils image <:+: contents := by
      decide +kernel
    intro image himage contents hcontents
    refine htexts image himage contents ?_
    simpa [demoPieces] using hcontents
  urls := by decide +kernel
  names := by decide +kernel

theorem saveAndReplaceImagesInHTML_of_separated_demo :
    ∃ n directory', ∀ m ≥ n, saveAndReplaceImagesInHTML demoUtils "http://a/" m
      "<img src=\"http://a/x.png\"><img src=\"http://a/x?k&amp;l\">".toList demoImages ⟨[], 0⟩ =
        some ("<img src=\"4d74e5311f4b44815e214a196629912a\"><img src=\"\">".toList ++
          kDisableImageContextMenuScript, directory') := by
  have hurl : ∀ image ∈ remoteImages demoUtils demoImages, imageURL demoUtils image ≠ [] := by
    decide +kernel
  obtain ⟨hends, hquoted⟩ :=
    saveAndReplaceImagesInHTML_of_separated "http://a/" hurl
  obtain ⟨n, result, directory', hn, -, hresult⟩ :=
    hends "<img src=\"http://a/x.png\"><img src=\"http://a/x?k&amp;l\">".toList ⟨[], 0⟩
  refine ⟨n, directory', fun m hm => (hn m hm).trans ?_⟩
  have hpage : pageText demoUtils "http://a/" (demoPieces.intersperse (.text ['"']))
      (remoteImages demoUtils demoImages) =
        ("<img src=\"4d74e5311f4b44815e214a196629912a\"><img src=\"\">".toList, true) := by
    decide +kernel
  rw [hresult (by decide +kernel) _ (hquoted _ _ demoPieces_quoted) (by decide +kernel), hpage]
  rfl

/-- The loop for an invalid URL does not end. What is left by one replacement may be replaced by
another one, and all of the page is lost when an image cannot be written. -/
theorem saveAndReplaceImagesInHTML_not_ends :
    (∀ n, saveAndReplaceImagesInHTML demoUtils "http://a/" n "<p>".toList [⟨"//[", []⟩] ⟨[], 0⟩ =
      none) ∧
    (saveAndReplaceImagesInHTML demoUtils "http://a/" 9 "http://bhttp://a/x/y".toList
        [⟨"http://a/x", []⟩, ⟨"http://b/y", []⟩] ⟨[], 0⟩ =
      some (kDisableImageContextMenuScript, ⟨[], 0⟩)) ∧
    saveAndReplaceImagesInHTML { demoUtils with writeFile := fun _ _ _ => -1 } "http://a/" 9
      "<p>".toList [⟨"http://a/x.png", "PNG".toList⟩] ⟨[], 0⟩ = some ([], ⟨[], 0⟩) := by
  refine ⟨fun n => ?_, ?_, by decide +kernel⟩
  · have hdata : ¬ demoUtils.schemeIsData "//[" = true := by decide +kernel
    have hsave : saveIfNeeded demoUtils "http://a/" ⟨"//[", []⟩ ⟨[], 0⟩ = some ([], ⟨[], 0⟩) := by
      decide +kernel
    have hurl : imageURL demoUtils ⟨"//[", []⟩ = [] := by decide +kernel
    rw [saveAndReplaceImagesInHTML, replaceImages, if_neg hdata, hsave, hurl]
    cases hrounds : (replaceRound [] []).rounds n
        ⟨"<p>".toList, false, findFrom [] "<p>".toList 0⟩ with
    | some result => exact absurd ⟨n, hrounds⟩ (replaceRound_not_ends _ _ result)
    | none => dsimp only; rw [hrounds]
  · have hfirst : (replaceRound (imageURL demoUtils ⟨"http://a/x", []⟩) []).rounds 9
        ⟨"http://bhttp://a/x/y".toList, false, findFrom (imageURL demoUtils ⟨"http://a/x", []⟩)
          "http://bhttp://a/x/y".toList 0⟩ = some ("http://b/y".toList, true) := by
      decide +kernel
    have hsecond : (replaceRound (imageURL demoUtils ⟨"http://b/y", []⟩) []).rounds 9
        ⟨"http://b/y".toList, true, findFrom (imageURL demoUtils ⟨"http://b/y", []⟩)
          "http://b/y".toList 0⟩ = some ([], true) := by
      decide +kernel
    have hsave : ∀ url ∈ ["http://a/x", "http://b/y"],
        demoUtils.schemeIsData url = false ∧
          saveIfNeeded demoUtils "http://a/" ⟨url, []⟩ ⟨[], 0⟩ = some ([], ⟨[], 0⟩) := by
      decide +kernel
    obtain ⟨hdata, hfirstSave⟩ := hsave "http://a/x" mem_cons_self
    obtain ⟨hdata', hsecondSave⟩ := hsave "http://b/y" (mem_cons_of_mem _ mem_cons_self)
    rw [saveAndReplaceImagesInHTML, replaceImages_cons hdata hfirstSave hfirst,
      replaceImages_cons hdata' hsecondSave hsecond, replaceImages, withScript, if_pos rfl,
      nil_append]

end LocalImages

end ChromiumIos
