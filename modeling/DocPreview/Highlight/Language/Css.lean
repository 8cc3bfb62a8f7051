import DocPreview.Highlight.Grammar

/-!
# The grammar of CSS
-/

namespace DocPreview.Highlight.Language

open Grammar

namespace Css

/-- A name. -/
def name : String :=
  let escaped := r"\\(?:\h{1,6}\s?|[^\n\h])"
  let first := "(?:[A-Za-z_]|[^\\x00-\\x7f]|" ++ escaped ++ ")"
  let next := "(?:[A-Za-z0-9_-]|[^\\x00-\\x7f]|" ++ escaped ++ ")*"
  "(?:--" ++ next ++ "|-?" ++ first ++ next ++ ")"

/-- The elements of HTML. -/
def elements : String :=
  "a|abbr|acronym|address|applet|area|article|aside|audio|b|base|basefont|bdi|bdo|big|" ++
    "blockquote|body|br|button|canvas|caption|center|cite|circle|code|col|colgroup|content|" ++
    "data|datalist|dd|del|details|dfn|dir|dialog|div|dl|dt|element|em|embed|eventsource|" ++
    "fieldset|figure|figcaption|font|footer|form|frame|frameset|g|h[1-6]|head|header|hgroup|" ++
    "hr|html|i|iframe|image|img|input|ins|isindex|kbd|keygen|label|legend|li|line|link|main|" ++
    "map|mark|math|menu|menuitem|meta|meter|nav|noframes|noscript|object|ol|optgroup|option|" ++
    "output|p|param|path|picture|polygon|polyline|pre|progress|q|rb|rect|rp|rt|rtc|ruby|s|" ++
    "samp|script|section|select|shadow|slot|small|source|span|strike|strong|style|sub|" ++
    "summary|sup|svg|table|tbody|td|template|text|textarea|tfoot|th|thead|time|title|tr|" ++
    "track|tt|u|ul|var|video|wbr|xmp"

/-- The properties of CSS. -/
def properties : String :=
  r"(?:-(?:webkit|moz|ms|o|khtml)-)?(?:align-(?:content|items|self)|alignment-baseline|all|" ++
    r"animation(?:-(?:delay|direction|duration|fill-mode|iteration-count|name|play-state|" ++
    r"timing-function))?|appearance|azimuth|backdrop-filter|backface-visibility|" ++
    r"background(?:-(?:attachment|blend-mode|clip|color|image|origin|position(?:-[xy])?|" ++
    r"repeat|size))?|baseline-shift|border(?:-(?:block|inline))?(?:-(?:start|end))?" ++
    r"(?:-(?:top|right|bottom|left))?(?:-(?:color|style|width|left-radius|right-radius))?|" ++
    r"border-(?:collapse|image(?:-(?:outset|repeat|slice|source|width))?|radius|spacing)|" ++
    r"bottom|box-(?:align|decoration-break|direction|flex|orient|pack|shadow|sizing)|" ++
    r"break-(?:after|before|inside)|caption-side|caret-color|clear|clip(?:-(?:path|rule))?|" ++
    r"color(?:-(?:adjust|interpolation(?:-filters)?))?|column(?:s|-(?:count|fill|gap|" ++
    r"rule(?:-(?:color|style|width))?|span|width))|contain|content|counter-(?:increment|" ++
    r"reset)|cursor|direction|display|dominant-baseline|empty-cells|fill(?:-(?:opacity|" ++
    r"rule))?|filter|flex(?:-(?:basis|direction|flow|grow|shrink|wrap))?|float|" ++
    r"flood-(?:color|opacity)|font(?:-(?:display|family|feature-settings|kerning|" ++
    r"language-override|optical-sizing|size(?:-adjust)?|stretch|style|synthesis|" ++
    r"variant(?:-(?:alternates|caps|east-asian|ligatures|numeric|position))?|" ++
    r"variation-settings|weight))?|gap|grid(?:-(?:area|auto-(?:columns|flow|rows)|" ++
    r"column(?:-(?:end|gap|start))?|gap|row(?:-(?:end|gap|start))?|template(?:-(?:areas|" ++
    r"columns|rows))?))?|hanging-punctuation|height|hyphens|image-(?:orientation|" ++
    r"rendering|resolution)|ime-mode|inline-size|isolation|justify-(?:content|items|self)|" ++
    r"kerning|left|letter-spacing|lighting-color|line-(?:break|height)|" ++
    r"list-style(?:-(?:image|position|type))?|margin(?:-(?:top|right|bottom|left|" ++
    r"block-(?:end|start)|inline-(?:end|start)))?|marker(?:-(?:end|mid|start))?|" ++
    r"mask(?:-(?:clip|composite|image|mode|origin|position|repeat|size|type))?|" ++
    r"(?:max|min)-(?:height|width|block-size|inline-size)|mix-blend-mode|" ++
    r"object-(?:fit|position)|opacity|order|orphans|osx-font-smoothing|font-smoothing|" ++
    r"outline(?:-(?:color|offset|style|width))?|overflow(?:-(?:wrap|x|y))?|" ++
    r"padding(?:-(?:top|right|bottom|left|block-(?:end|start)|inline-(?:end|start)))?|" ++
    r"page-break-(?:after|before|inside)|perspective(?:-origin)?|place-(?:content|items|" ++
    r"self)|pointer-events|position|quotes|resize|right|row-gap|ruby-(?:align|position)|" ++
    r"scroll-(?:behavior|snap-type)|shape-(?:image-threshold|margin|outside|rendering)|" ++
    r"speak|src|stop-(?:color|opacity)|stroke(?:-(?:dasharray|dashoffset|linecap|linejoin|" ++
    r"miterlimit|opacity|width))?|tab-size|table-layout|tap-highlight-color|" ++
    r"text-(?:align(?:-last)?|anchor|decoration(?:-(?:color|line|skip|style))?|" ++
    r"emphasis(?:-(?:color|position|style))?|fill-color|indent|justify|orientation|" ++
    r"overflow|rendering|shadow|size-adjust|stroke|transform|underline-position)|top|" ++
    r"touch-(?:action|callout)|transform(?:-(?:box|origin|style))?|transition(?:-(?:delay|" ++
    r"duration|property|timing-function))?|unicode-(?:bidi|range)|user-(?:modify|select|" ++
    r"drag)|vertical-align|visibility|white-space|widows|width|will-change|word-(?:break|" ++
    r"spacing|wrap)|writing-mode|z-index|zoom)(?![\w-])"

/-- The keywords that are values of properties. -/
def keywords : String :=
  r"(?:absolute|additive|all(?:-scroll)?|allow-end|alphabetic|alternate(?:-reverse)?|always|" ++
    r"armenian|auto(?:-fill|-fit)?|avoid(?:-column|-page|-region)?|backwards|balance(?:-all)?|" ++
    r"baseline|below|bengali|bevel|bidi-override|blink|block(?:-start|-end)?|bold|bolder|both|" ++
    r"bottom|box|break-(?:all|word)|bullets|butt|capitalize|cell|center|chain|char|" ++
    r"cjk-ideographic|circle|clip|clone|closest-(?:corner|side)|col-resize|collapse|color|" ++
    r"color-(?:burn|dodge)|column(?:-reverse)?|condensed|contain|content(?:-box|s)?|" ++
    r"context-menu|copy|cover|create|crisp-edges|crosshair|cyclic|darken|dashed|decimal" ++
    r"(?:-leading-zero)?|default|dense|devanagari|difference|digits|disabled|disc|" ++
    r"disclosure-(?:closed|open)|discard|distribute(?:-all-lines)?|dot|dotted|double|e-resize|" ++
    r"each-line|ease(?:-in|-out|-in-out)?|ellipse|ellipsis|embed|end|evenodd|ew-resize|" ++
    r"exact|exclude|exclusion|expanded|extends|extra-(?:condensed|expanded)|fallback|" ++
    r"farthest-(?:corner|side)|fill(?:-available|-box)?|filled|fit-content|fixed|flat|flex" ++
    r"(?:-end|-start)?|flow(?:-root)?|forwards|from-image|full-width|geometricPrecision|" ++
    r"georgian|grab|grabbing|grayscale|grid|groove|hand|hanging|hard-light|help|hidden|hide|" ++
    r"historical-forms|horizontal(?:-tb)?|hue|icon|ideographic|inactive|infinite|inherit|" ++
    r"initial|inline(?:-(?:block|box|end|flex|grid|line-edge|start|table))?|inset|inside|" ++
    r"inter-(?:character|ideograph|word)|intersect|invert|isolat(?:e|ion)|italic|" ++
    r"jis(?:04|78|83|90)|justify(?:-all)?|keep-all|landscape|large|larger|last|left|" ++
    r"legacy|light|lighten|lighter|line(?:-edge|-through)?|linear|list-item|" ++
    r"local|loose|lowercase|lower-(?:alpha|greek|latin|roman)|lr-tb|ltr|luminosity|" ++
    r"manual|manipulation|mandatory|margin-box|markers|mathematical|max-content|medium|menu|" ++
    r"message-box|middle|min-content|miter|mixed|monospace|move|multiply|n-resize|ne-resize|" ++
    r"nesw-resize|newspaper|no-(?:change|clip|close-quote|drop|open-quote|repeat)|" ++
    r"none|nonzero|normal|not-allowed|nowrap|ns-resize|numbers|numeric|nw-resize|" ++
    r"nwse-resize|oblique|open(?:-quote)?|optimize(?:Legibility|Quality|Speed)|optional|" ++
    r"outset|outside|over(?:lay|line)?|padding(?:-box)?|page|paint(?:ed)?|pan-[xy]|paused|" ++
    r"pinch-zoom|pointer|portrait|pre(?:-line|-wrap)?|progress|proximity|" ++
    r"radial|recto|region|relative|repeat(?:-[xy])?|reset-size|reverse|revert|ridge|right|" ++
    r"rotate|round|row(?:-resize|-reverse)?|rtl|ruby|running|s-resize|sans-serif|saturation|" ++
    r"scale-down|screen|scroll(?:-position)?|se-resize|semi-(?:condensed|expanded)|separate|" ++
    r"serif|cursive|fantasy|sesame|show|sideways(?:-left|-lr|-right|-rl)?|simple|slice|small" ++
    r"(?:-caps|-caption)?|smaller|smooth|snap|soft-light|solid|space(?:-around|-between|" ++
    r"-evenly)?|spell-out|square|start|static|status-bar|step-(?:end|start)|sticky|stretch|" ++
    r"strict|stroke(?:-box)?|style|subtract|sub|sup|super|sw-resize|symbolic|table" ++
    r"(?:-(?:caption|cell|column|column-group|footer-group|header-group|row|row-group))?|tb|" ++
    r"tb-rl|text(?:-(?:bottom|top))?|thick|thin|top|touch|transform|transparent|triangle|" ++
    r"ultra-(?:condensed|expanded)|under|underline|unset|uppercase|upper-(?:alpha|latin|" ++
    r"roman)|upright|use-glyph-orientation|verso|vertical(?:-(?:lr|ideographic|rl|text))?|" ++
    r"view-box|visible(?:Fill|Painted|Stroke)?|w-resize|wait|wavy|weight|whitespace|words|" ++
    r"wrap(?:-reverse)?|x(?:x-large|x-small|-large|-small)|zero|zoom-(?:in|out))(?![\w-])"

/-- The colours with a name. -/
def colors : String :=
  r"(?:aliceblue|antiquewhite|aquamarine|azure|beige|bisque|blanchedalmond|blueviolet|brown|" ++
    r"burlywood|cadetblue|chartreuse|chocolate|coral|cornflowerblue|cornsilk|crimson|cyan|" ++
    r"darkblue|darkcyan|darkgoldenrod|darkgr[ae]y|darkgreen|darkkhaki|darkmagenta|" ++
    r"darkolivegreen|darkorange|darkorchid|darkred|darksalmon|darkseagreen|darkslateblue|" ++
    r"darkslategr[ae]y|darkturquoise|darkviolet|deeppink|deepskyblue|dimgr[ae]y|dodgerblue|" ++
    r"firebrick|floralwhite|forestgreen|gainsboro|ghostwhite|gold|goldenrod|greenyellow|grey|" ++
    r"honeydew|hotpink|indianred|indigo|ivory|khaki|lavender|lavenderblush|lawngreen|" ++
    r"lemonchiffon|lightblue|lightcoral|lightcyan|lightgoldenrodyellow|lightgr[ae]y|" ++
    r"lightgreen|lightpink|lightsalmon|lightseagreen|lightskyblue|lightslategr[ae]y|" ++
    r"lightsteelblue|lightyellow|limegreen|linen|magenta|mediumaquamarine|mediumblue|" ++
    r"mediumorchid|mediumpurple|mediumseagreen|mediumslateblue|mediumspringgreen|" ++
    r"mediumturquoise|mediumvioletred|midnightblue|mintcream|mistyrose|moccasin|navajowhite|" ++
    r"oldlace|olivedrab|orangered|orchid|palegoldenrod|palegreen|paleturquoise|" ++
    r"palevioletred|papayawhip|peachpuff|peru|pink|plum|powderblue|rosybrown|royalblue|" ++
    r"saddlebrown|salmon|sandybrown|seagreen|seashell|sienna|skyblue|slateblue|slategr[ae]y|" ++
    r"snow|springgreen|steelblue|tan|thistle|tomato|turquoise|violet|wheat|whitesmoke|" ++
    r"yellowgreen|rebeccapurple|aqua|black|blue|fuchsia|gray|green|lime|maroon|navy|olive|" ++
    r"orange|purple|red|silver|teal|white|yellow|currentcolor|transparent)(?![\w-])"

/-- The functions that are known. -/
def functions : String :=
  r"(?:rgba?|hsla?|hwb|gray|device-cmyk|color(?:-mod)?|alpha|shade|tint|blacken|whiten|blend|" ++
    r"calc|toggle|counters?|format|local|image(?:-set)?|element|cross-fade|" ++
    r"(?:-(?:webkit|moz|ms|o)-)?(?:repeating-)?(?:linear|radial|conic)-gradient|" ++
    r"-webkit-gradient|cubic-bezier|steps|frames|minmax|repeat|fit-content|rect|inset|circle|" ++
    r"ellipse|polygon|matrix(?:3d)?|translate(?:3d|[XYZ])?|scale(?:3d|[XYZ])?|" ++
    r"rotate(?:3d|[XYZ])?|skew[XY]?|perspective|blur|brightness|contrast|drop-shadow|" ++
    r"grayscale|hue-rotate|invert|opacity|saturate|sepia|symbols|stylistic|styleset|" ++
    r"character-variant|swash|ornaments|annotation|leader|target-(?:counters?|text)|supports)"

/-- The contexts of selectors. -/
def selectors : Grammar := [
  ("selectors", context [
    mark ("\\." ++ name) "entity.other.attribute-name.class",
    mark ("#" ++ name) "entity.other.attribute-name.id",
    mark r"\*" "entity.name.tag.wildcard",
    mark ("(?<![-\\w])(?:" ++ elements ++ r")(?![-\w])") "entity.name.tag",
    mark (r"\b[a-z][\w]*-[\w-]*(?![-\w(])") "entity.name.tag.custom",
    push r"::?(?:matches|not|has|is|where|host|host-context)(?=\()" "entity.other.pseudo-class"
      ["selector arguments"],
    push r":(?:nth-child|nth-last-child|nth-of-type|nth-last-of-type)(?=\()"
      "entity.other.pseudo-class" ["number arguments"],
    push r":(?:lang|dir)(?=\()" "entity.other.pseudo-class" ["word arguments"],
    mark ("::?" ++ name) "entity.other.pseudo-class",
    push r"\[" "punctuation.section.brackets.begin" ["attribute"],
    mark r">>>|[>~+]" "punctuation.separator.combinator",
    use "comments"]),
  ("selector arguments", context [
    mark r"\(" "punctuation.section.group.begin",
    pop r"\)" "punctuation.section.group.end",
    pop r"(?=[\x7b;])" "",
    use "selectors"]),
  ("number arguments", context [
    mark r"\(" "punctuation.section.group.begin",
    pop r"\)" "punctuation.section.group.end",
    mark r"\b(?:even|odd)\b" "keyword.other",
    mark r"[+-]?\d+(n?)" "constant.numeric" |>.parts [(1, "keyword.other.unit")],
    mark r"n\b" "keyword.other.unit",
    mark r"[+-]" "keyword.operator",
    mark r"\d+" "constant.numeric",
    pop r"(?=[\x7b;])" ""]),
  ("word arguments", context [
    mark r"\(" "punctuation.section.group.begin",
    pop r"\)" "punctuation.section.group.end",
    use "strings",
    mark name "string.unquoted",
    pop r"(?=[\x7b;])" ""]),
  ("attribute", context [
    pop r"\]" "punctuation.section.brackets.end",
    push r"[~|^$*]?=" "keyword.operator.attribute-selector" ["attribute value"],
    mark r"\|" "punctuation.separator.namespace",
    mark name "entity.other.attribute-name"]),
  ("attribute value", context [
    pop r"(?=\])" "",
    use "strings",
    mark r"(?<=[\s'\x22])[iI](?=\s*\])" "keyword.other",
    mark r"[^\s'\x22\]]+" "string.unquoted"])]

/-- The contexts of rules. -/
def rules : Grammar := [
  ("sheet", context [
    use "comments",
    use "at rules",
    push r"\x7b" "punctuation.section.property-list.begin" ["declarations"],
    mark r"," "punctuation.separator",
    use "selectors"]),
  ("at rules", context [
    push r"(?i:@(?:media|supports|document|-moz-document))(?![\w-])" "keyword.control.at-rule"
      ["query block", "query"],
    push r"(?i:@charset)(?![\w-])" "keyword.control.at-rule" ["character set"],
    push r"(?i:@(?:import|namespace))(?![\w-])" "keyword.control.at-rule" ["directive"],
    push r"(?i:@(?:-(?:webkit|moz|o)-)?keyframes)(?![\w-])" "keyword.control.at-rule"
      ["key frames", "frame name"],
    push r"(?i:@(?:counter-style|custom-media|font-face|page))(?![\w-])" "keyword.control.at-rule"
      ["plain block", "plain head"]]),
  ("character set", context [
    pop r"$" "",
    use "comments",
    use "strings"]),
  ("query", context [
    pop r"(?=[\x7b;])" "",
    use "comments",
    push r"\(" "punctuation.section.group.begin" ["feature"],
    mark r"(?i:\b(?:and|or|not|only)\b)" "keyword.operator.logic",
    mark r"\b(?:all|aural|braille|embossed|handheld|print|projection|screen|speech|tty|tv)\b"
      "support.constant.media",
    mark r"," "punctuation.separator"]),
  ("feature", context [
    pop r"\)" "punctuation.section.group.end",
    push r"\(" "punctuation.section.group.begin" ["feature"],
    push r":" "punctuation.separator.key-value" ["feature value"],
    mark r"(?i:\b(?:and|or|not|only)\b)" "keyword.operator.logic",
    mark (r"(?<![\w-])(?:" ++ properties ++
      r"|(?:(?:min|max)-)?(?:aspect-ratio|color(?:-index)?|" ++
      r"device-(?:aspect-ratio|height|width)|height|monochrome|resolution|width)(?![\w-])|" ++
      r"(?:any-)?(?:hover|pointer)(?![\w-])|(?:grid|orientation|scan|update)(?![\w-]))")
      "support.type.property-name",
    mark name "",
    mark r"[<>]=?|=" "keyword.operator",
    use "numbers"]),
  ("feature value", context [
    pop r"(?=[)\x7b;])" "",
    use "values"]),
  ("query block", context [
    set r"\x7b" "punctuation.section.block.begin" ["nested sheet"],
    pop r";" "punctuation.terminator.rule",
    popElse]),
  ("nested sheet", context [
    pop r"\x7d" "punctuation.section.block.end",
    use "sheet"]),
  ("directive", context [
    pop r";" "punctuation.terminator.rule",
    use "strings",
    use "values",
    pop r"(?=[\x7b\x7d])" ""]),
  ("frame name", context [
    pop name "entity.other.animation-name",
    pop r"(?=[\x7b;\x22'])" ""]),
  ("key frames", context [
    set r"\x7b" "punctuation.section.block.begin" ["frames"],
    use "strings",
    pop r";" "punctuation.terminator.rule"]),
  ("frames", context [
    pop r"\x7d" "punctuation.section.block.end",
    use "comments",
    mark r"\b(?:from|to)\b" "keyword.other.selector",
    use "numbers",
    push r"\x7b" "punctuation.section.property-list.begin" ["declarations"]]),
  ("plain head", context [
    pop r"(?=[\x7b;])" "",
    use "comments",
    use "strings",
    mark ("::?" ++ name) "entity.other.pseudo-class"]),
  ("plain block", context [
    set r"\x7b" "punctuation.section.property-list.begin" ["declarations"],
    pop r";" "punctuation.terminator.rule",
    popElse]),
  ("declarations", context [
    pop r"\x7d" "punctuation.section.property-list.end",
    use "declaration rules"]),
  ("declaration rules", context [
    use "comments",
    push r"(?<![\w-])font(?:-family)?(?![\w-])" "support.type.property-name" ["font"],
    mark (r"(?<![\w-])" ++ properties) "support.type.property-name",
    mark r"--[\w-]+" "support.type.custom-property",
    mark r";" "punctuation.terminator.rule",
    push r":" "punctuation.separator.key-value" ["value"],
    mark name "meta.property-name"]),
  ("value", context [
    pop r";" "punctuation.terminator.rule",
    pop r"(?=\x7d)" "",
    use "values"]),
  ("font", context [
    set r":" "punctuation.separator.key-value" ["font value"],
    popElse]),
  ("font value", context [
    pop r";" "punctuation.terminator.rule",
    pop r"(?=\x7d)" "",
    use "typed values",
    mark name "string.unquoted"])]

/-- The contexts of values. -/
def values : Grammar := [
  ("comments", context [push r"/\*" "punctuation.definition.comment.begin" ["comment"]]),
  ("comment", context [pop r"\*/" ""] |>.whole "comment.block"),
  ("strings", context [
    push r"\x22" "punctuation.definition.string.begin" ["double quoted"],
    push r"'" "punctuation.definition.string.begin" ["single quoted"]]),
  ("double quoted", context [
    pop r"\x22" "punctuation.definition.string.end",
    mark r"\\(?:\h{1,6}|.|\n)" "constant.character.escape",
    pop r"$\n?" "invalid.illegal.newline"] |>.whole "string.quoted.double"),
  ("single quoted", context [
    pop r"'" "punctuation.definition.string.end",
    mark r"\\(?:\h{1,6}|.|\n)" "constant.character.escape",
    pop r"$\n?" "invalid.illegal.newline"] |>.whole "string.quoted.single"),
  ("numbers", context [
    mark (r"([-+]?(?:\d*\.\d+|\d+)(?:[eE][-+]?\d+)?)(%|(?i:ch|cm|deg|dpcm|dpi|dppx|em|ex|fr|" ++
      r"grad|hz|in|khz|mm|ms|pc|pt|px|q|rad|rem|s|turn|vh|vmax|vmin|vw|x)\b)?") ""
      |>.parts [(1, "constant.numeric"), (2, "keyword.other.unit")]]),
  ("values", context [
    use "typed values",
    mark name ""]),
  ("typed values", context [
    use "comments",
    use "strings",
    mark r"#(?:\h{8}|\h{6}|\h{3,4})\b" "constant.other.color.rgb-value",
    mark r"!\s*(?i:important|default|global|optional)\b" "keyword.other.important",
    mark r"([uU]\+)([\h?]{1,6}(?:-\h{1,6})?)" ""
      |>.parts [(1, "support.unicode-range"), (2, "constant.other.unicode-range")],
    push r"\burl(?=\()" "support.function.url" ["url"],
    push r"\battr(?=\()" "support.function" ["attribute name"],
    push r"(?<![\w-])(?:-(?:webkit|moz|ms|o)-)?(?:repeating-)?(?:linear|radial)-gradient(?=\()"
      "support.function.gradient" ["gradient"],
    push ("(?<![\\w-])" ++ functions ++ r"(?=\()") "support.function" ["function"],
    push r"\(" "punctuation.section.group.begin" ["function arguments"],
    use "numbers",
    mark (r"(?<![\w-])" ++ colors) "support.constant.color",
    mark (r"(?<![\w-])" ++ keywords) "support.constant.property-value",
    mark r"," "punctuation.separator",
    mark r"[-+*/](?=\s)" "keyword.operator"]),
  ("function", context [
    mark r"\(" "punctuation.section.group.begin",
    set r"(?<=\()" "" ["function arguments"]]),
  ("function arguments", context [
    pop r"\)" "punctuation.section.group.end",
    pop r"(?=[;\x7d])" "",
    use "values"]),
  ("gradient", context [
    mark r"\(" "punctuation.section.group.begin",
    set r"(?<=\()" "" ["gradient arguments"]]),
  ("gradient arguments", context [
    pop r"\)" "punctuation.section.group.end",
    pop r"(?=[;\x7d])" "",
    mark r"(?<![\w-])(?:to|at|circle|ellipse)(?![\w-])" "keyword.other",
    use "values"]),
  ("attribute name", context [
    mark r"\(" "punctuation.section.group.begin",
    pop r"\)" "punctuation.section.group.end",
    pop r"(?=[;\x7d])" "",
    mark name "entity.other.attribute-name"]),
  ("url", context [
    set r"\((?=\s*['\x22])" "punctuation.section.group.begin" ["function arguments"],
    set r"\(" "punctuation.section.group.begin" ["bare url"],
    popElse]),
  ("bare url", context [
    pop r"\)" "punctuation.section.group.end",
    mark r"[^)\s]+" "string.unquoted"])]

end Css

open Css

/-- The grammar of CSS. -/
def css : Grammar :=
  [("main", context [use "sheet"])] ++ selectors ++ rules ++ values

end DocPreview.Highlight.Language
