import DocPreview.Highlight.Language.Html

/-!
# The grammars of Markdown, Textile, reStructuredText and files of properties

In Textile a block starts with a mark, which can carry a class or a style, and ends with an empty
line. HTML can stand everywhere.
-/

namespace DocPreview.Highlight.Language

open Grammar

/-! ### Markdown -/

namespace Markdown

/-- What starts a block that ends a paragraph. -/
def blockStart : String :=
  r"(?:[ ]{0,3}(?:#{1,6}(?:\s|$)|>|[*+-][ ]|\d+[.)][ ]|\x60{3}|~{3})|[ ]{0,3}(?:(?:\*[ ]*){3,}|" ++
    r"(?:-[ ]*){3,}|(?:_[ ]*){3,})$)"

/-- The contexts of blocks. -/
def blocks : Grammar := [
  ("blocks", context [
    push r"^[ ]{0,3}(#{1,6})(?=\s|$)" "punctuation.definition.heading.begin" ["heading"],
    push r"^[ ]{0,3}(>)[ ]?" "punctuation.definition.blockquote" ["quote"],
    use "fences",
    mark r"^[ ]{0,3}(?:(?:\*[ ]*){3,}|(?:-[ ]*){3,}|(?:_[ ]*){3,})$\n?" "meta.separator",
    push r"^[ ]{0,3}(?:[*+-]|\d+[.)])(?=\s)" "punctuation.definition.list_item" ["list item"],
    push r"^[ ]{0,3}(\[)([^\]]+)(\])(:)" "" ["definition"]
      |>.parts [(2, "entity.name.reference.link")],
    mark r"^(?:[ ]{4}|\t).*$\n?" "markup.raw.block",
    push r"(?=\S)" "" ["paragraph"]]),
  ("heading", context [
    pop r"$\n?" "",
    use "inline"] |>.whole "markup.heading"),
  ("quote", context [
    pop r"^(?=\s*$)" "",
    pop r"^(?=[ ]{0,3}(?:#{1,6}(?:\s|$)|[*+-][ ]|\d+[.)][ ]|\x60{3}|~{3}))" "",
    mark r"^[ ]{0,3}>" "punctuation.definition.blockquote",
    use "inline"] |>.whole "markup.quote"),
  ("fences", context [
    push r"^([ ]*)(\x60{3,}|~{3,})[ \t]*([^\s\x60]*)?[^\x60\n]*$\n?" "" ["fence"]
      |>.parts [(3, "constant.other.language-name")]]),
  ("fence", context [pop r"^[ ]*\2[\x60~]*\s*$\n?" ""] |>.whole "markup.raw.code-fence"),
  ("list item", context [
    pop r"^(?=\S)" "",
    use "fences",
    push r"^\s+(?:[*+-]|\d+[.)])(?=\s)" "punctuation.definition.list_item" ["nested item"],
    use "inline"]),
  ("nested item", context [
    pop r"^" "",
    use "inline"]),
  ("definition", context [
    pop r"$\n?" "",
    mark r"\s*(<)([^>\s]*)(>)" "" |>.parts [(2, "markup.underline.link")],
    mark r"(?<=:)\s*([^\s<]\S*)" "" |>.parts [(1, "markup.underline.link")],
    mark r"\x22[^\x22]*\x22" "string.quoted.double",
    mark r"'[^']*'" "string.quoted.single",
    mark r"\([^)]*\)" "string.quoted.other"]),
  ("paragraph", context [
    pop r"^(?=\s*$)" "",
    mark r"^[ ]{0,3}(={3,})(?=[ \t]*$)" "markup.heading.1",
    mark r"^[ ]{0,3}(-{3,})(?=[ \t]*$)" "markup.heading.2",
    pop ("^(?=" ++ blockStart ++ ")") "",
    use "inline"])]

/-- The contexts of what stands in lines. -/
def spans : Grammar := [
  ("inline", context [
    mark r"\\[-\x60*_#+.!()\x7b\x7d\[\]\\>|~<\x22'&:;,/=?@^%$]" "constant.character.escape",
    push r"(\x60+)(?!\x60)" "punctuation.definition.raw.begin" ["code"],
    use "emphasis",
    push r"(!?)(\[)(?=(?:[^\[\]]|\[[^\[\]]*\])*\]\()" "" ["destination", "link text"],
    mark r"(!?)(\[)([^\[\]]*)(\])[ ]?(\[)([^\[\]]+)(\])" ""
      |>.parts [(6, "constant.other.reference.link")],
    mark r"(<)((?:https?|ftp|mailto):[^\s>]+)(>)" "" |>.parts [(2, "markup.underline.link")],
    mark r"(<)([-.\w+]+@[-a-z0-9]+(?:\.[-a-z0-9]+)*\.[a-z]+)(>)" ""
      |>.parts [(2, "markup.underline.link")],
    mark r"(?:https?://|www\.)[^\s<>()\x22]*[^\s<>()\x22.,;:!?*_~]" "markup.underline.link",
    use "html:markup"]),
  ("code", context [
    pop r"\1(?!\x60)" "punctuation.definition.raw.end",
    pop r"^(?=\s*$)" "",
    mark r"\x60+" ""] |>.whole "markup.raw.inline"),
  ("emphasis", context [
    push r"\*{3}(?=\S)(?!\*)" "punctuation.definition.bold.begin" ["star both"],
    push r"\*\*(?=\S)(?!\*)" "punctuation.definition.bold.begin" ["star bold"],
    push r"\*(?=\S)(?!\*)" "punctuation.definition.italic.begin" ["star italic"],
    push r"\b__(?=\S)(?!_)" "punctuation.definition.bold.begin" ["line bold"],
    push r"\b_(?=\S)(?!_)" "punctuation.definition.italic.begin" ["line italic"]]),
  ("star both", context [
    pop r"\*{3}" "punctuation.definition.bold.end",
    pop r"^(?=\s*$)" "",
    use "inline"] |>.whole "markup.bold markup.italic"),
  ("star bold", context [
    mark r"[ \t]+\*\*(?!\*)|^\*\*(?!\*)" "",
    pop r"\*\*" "punctuation.definition.bold.end",
    pop r"^(?=\s*$)" "",
    push r"\*(?=\S)(?!\*)" "punctuation.definition.italic.begin" ["star italic"],
    use "inline"] |>.whole "markup.bold"),
  ("star italic", context [
    mark r"[ \t]*\*{4,}|[ \t]+\*(?!\*)|^\*(?!\*)" "",
    pop r"\*(?!\*[^*])" "punctuation.definition.italic.end",
    pop r"^(?=\s*$)" "",
    use "inline"] |>.whole "markup.italic"),
  ("line bold", context [
    mark r"[ \t]+__(?!_)|^__(?!_)" "",
    pop r"__\b" "punctuation.definition.bold.end",
    pop r"^(?=\s*$)" "",
    use "inline"] |>.whole "markup.bold"),
  ("line italic", context [
    mark r"[ \t]+_(?!_)|^_(?!_)" "",
    pop r"_\b" "punctuation.definition.italic.end",
    pop r"^(?=\s*$)" "",
    use "inline"] |>.whole "markup.italic"),
  ("link text", context [
    pop r"\](?=\()" "punctuation.definition.link.end",
    push r"\[" "" ["bracketed"],
    pop r"^(?=\s*$)" "",
    use "inline"]),
  ("bracketed", context [
    pop r"\]" "",
    pop r"^(?=\s*$)" "",
    use "inline"]),
  ("destination", context [
    set r"\(" "punctuation.definition.metadata.begin" ["address"],
    popElse]),
  ("address", context [
    pop r"\)" "punctuation.definition.metadata.end",
    pop r"^(?=\s*$)" "",
    mark r"(<)([^>\s]*)(>)" "" |>.parts [(2, "markup.underline.link")],
    mark r"\x22(?:\\.|[^\x22\\])*\x22" "string.quoted.other.link.description.title",
    mark r"'(?:\\.|[^'\\])*'" "string.quoted.other.link.description.title",
    mark r"[^\s()\x22'<](?:[^\s()]|\([^\s()]*\))*" "markup.underline.link"])]

end Markdown

section

open Markdown

/-- The grammar of Markdown. -/
def markdown : Grammar :=
  [("main", context [use "blocks"])] ++ blocks ++ spans ++ html.embedded "html"

end

/-! ### Textile -/

namespace Textile

/-- The classes and styles that a block can have. -/
def blockStyle : String := r"(\([^)]*\)|\x7b[^\x7d]*\x7d)*"

/-- The classes, styles and languages that a phrase can have. -/
def phraseStyle : String := r"(\([^)]*\)|\x7b[^\x7d]*\x7d|\[[^\]]+\]){0,3}"

/-- The classes, styles and languages that a link or an image can have. -/
def linkStyle : String :=
  r"(?:(?:\(([^)]+)\))?(?:\x7b([^\x7d]+)\x7d)?(?:\[([^\]]+)\])?)"

/-- What a link leads to; a sign at its end does not belong to it. -/
def linkTarget : String := r"(\S*?(?:\w|/|;))(?=[^\w/;]*?(?:\s|$))"

/-- A block with a mark. -/
def block (mark scope : String) (context : String) : Entry :=
  push ("^(" ++ mark ++ "(?:[<>=()]+)?)" ++ blockStyle ++ r"(\.)" ) "" [context] |>.parts [
    (1, "entity.name.tag." ++ scope), (2, "entity.name.type"), (3, "entity.name.tag." ++ scope)]

/-- The contexts of blocks. -/
def blocks : Grammar := [
  ("main", context [
    block "h[1-6]" "heading" "heading",
    block "bq" "blockquote" "quotation",
    block "fn[0-9]+" "footnote" "plain block",
    block "table" "table" "plain block",
    push r"^(?=\S)" "" ["paragraph"],
    use "html:main"]),
  ("heading", context [
    pop r"^$" "",
    use "inline",
    use "html:main"] |>.whole "markup.heading"),
  ("quotation", context [
    pop r"^$" "",
    use "inline",
    use "html:main"] |>.whole "markup.quote"),
  ("plain block", context [
    pop r"^$" "",
    use "inline",
    use "html:main"]),
  ("paragraph", context [
    pop r"^$" "",
    mark (r"^(p(?:[<>=()]+)?)" ++ blockStyle ++ r"(\.)") "" |>.parts [
      (1, "entity.name.tag.paragraph"), (2, "entity.name.type"),
      (3, "entity.name.tag.paragraph")],
    use "inline",
    use "html:main"])]

/-- The contexts of phrases. -/
def phrases : Grammar := [
  ("inline", context [
    mark r"&(?![A-Za-z0-9]+;)" "",
    mark (r"^[*#]+" ++ r"(\([^)]*\)|\x7b[^\x7d]*\x7d|\[[^\]]+\])*\s+") "markup.list"
      |>.parts [(1, "entity.name.type")],
    mark (r"\x22" ++ linkStyle ++ r"([^\x22]+?)\s?(?:\(([^)]+?)\))?\x22:" ++ linkTarget) ""
      |>.parts [(4, "string.other.link.title"), (5, "string.other.link.description.title"),
        (6, "markup.underline.link")],
    mark (r"!(?:<|=|>)?" ++ linkStyle ++ r"(?:\. )?([^\s(!]+?)\s?" ++
      r"(?:\(((?:[^()]|\([^)]+\))+?)\))?!(?::" ++ linkTarget ++ ")?") "" |>.parts [
        (4, "markup.underline.link.image"), (5, "string.other.link.description"),
        (6, "markup.underline.link")],
    mark (r"\|" ++ blockStyle ++ r"(?:\\\||.)+\|") "markup.other.table.cell"
      |>.parts [(1, "entity.name.type")],
    mark (r"\B(\*\*?)" ++ phraseStyle ++ r"(?:\S.*?\S|\S)\1\B") "markup.bold"
      |>.parts [(2, "entity.name.type")],
    mark (r"\B-" ++ phraseStyle ++ r"(?:\S.*?\S|\S)-") "markup.deleted"
      |>.parts [(1, "entity.name.type")],
    mark (r"\B\+" ++ phraseStyle ++ r"(?:\S.*?\S|\S)\+") "markup.inserted"
      |>.parts [(1, "entity.name.type")],
    mark (r"(?:\b|\s)_" ++ phraseStyle ++ r"(?:\S.*?\S|\S)_(?:\b|\s)") "markup.italic"
      |>.parts [(1, "entity.name.type")],
    mark (r"\B([@^~%]|\?\?)" ++ phraseStyle ++ r"(?:\S.*?\S|\S)\1") "markup.italic"
      |>.parts [(2, "entity.name.type")],
    mark r"\[[0-9+]\]" "entity.name.tag"])]

end Textile

section

open Textile

/-- The grammar of Textile. -/
def textile : Grammar := blocks ++ phrases ++ html.embedded "html"

/-- The grammar of files of properties. -/
def properties : Grammar := [
  ("main", context [
    mark r"^\s*[#!].*$\n?" "comment.line.number-sign",
    mark r"^(\s*[^\s=:#!][^=:\n]*)([=:])" ""
      |>.parts [(1, "keyword.other"), (2, "punctuation.separator.key-value")]])]

end

/-! ### reStructuredText -/

/-- The grammar of reStructuredText. -/
def reStructuredText : Grammar := [
  ("main", context [
    mark r"(\.\.)\s[A-z][A-z0-9-_]+(::)\s*$" "meta.other.directive",
    push r"^([ \t]*).*?(::)" "" ["raw block"] |>.parts [(2, "markup.raw")],
    mark r"\*\*[^*]+\*\*" "markup.bold",
    mark r"\*\w[^*]+\w\*" "markup.italic",
    mark r"(\.\.)\s+(_)([\w\s]+)(:)\s+(.*)" "" |>.parts [
      (3, "string.other.link.title"), (5, "markup.underline.link")],
    mark r"(\x60)([^\x60<]+)\s+<(.+?)>(\x60_)" "" |>.parts [
      (2, "string.other.link.title"), (3, "markup.underline.link")],
    mark r"(?::[\w-]+:)?\x60[^\x60]+\x60_?_?" "markup.raw.inner",
    mark (r"^={2,}$|^-{2,}$|^~{2,}$|^\x60{2,}$|^#{2,}$|^\x22{2,}$|^\^{2,}$|^\+{2,}$|^\*{2,}$|" ++
      r"^:{2,}$|^'{2,}$")
      "markup.heading",
    mark r"\b\w+(_)(?=\s|$)" "string.other.link.title",
    mark r"(\.\.)\s+(\[(?:#?[^\]]*?|\*)\])\s+(.*)" "" |>.parts [
      (2, "constant.other.footnote"), (3, "string.other.footnote")],
    mark r"(\[)(\d+|#\w*|\*)(\]_)" "" |>.parts [(2, "constant.other.footnote.link")],
    mark r"(\|)[^|]+(\|_{0,2})" "meta.substitution",
    mark r":[A-z][A-z0-9 =\t_]*:" "entity.name.tag",
    mark r"^\s*\.\.\s.*$\n?" "comment.line.double-dot"]),
  ("raw block", context [pop r"^(?=\1\S)" ""])]

end DocPreview.Highlight.Language
