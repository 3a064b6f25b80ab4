import Stencil.FileTree

/-!
# Bundled files

The files that come with the library: data that every site may start from, the
strings of two languages, and a few theme texts.
-/

namespace Stencil.Bundled

/-- The text of lines with `'\n'` in between. -/
def lines (texts : List String) : Text :=
  ['\n'].intercalate (texts.map String.toList)

/-- A file that holds `text` in UTF-8. -/
def file (text : Text) : FileNode := .file (String.ofList text).toUTF8

/-! ## Data -/

/-- The data that a site may start from. -/
def defaults : Text := lines
  ["Title: Themer",
   "Description: A theme rendered with Themer.",
   "MetaDescription: A theme rendered with Themer.",
   "Favicon: /favicon.ico",
   "RSS: /rss",
   "CustomCSS: \"\"",
   "Posts:",
   "  - PostType: text",
   "    Title: Hello, World!",
   "    Body: <p>This is the first post.</p>",
   "    Permalink: /post/1",
   "    Time: 1325379661",
   "    Tags:",
   "      - themer",
   "      - hello world",
   "  - PostType: quote",
   "    Quote: Simplicity is prerequisite for reliability.",
   "    Source: Edsger W. Dijkstra",
   "    Permalink: /post/2",
   "    Time: 1325466061",
   "    Tags: []",
   ""]

/-- The strings of English. -/
def english : Text := lines
  ["About: About",
   "Archive: Archive",
   "Ask me anything: Ask me anything",
   "Newer posts: Newer posts",
   "Older posts: Older posts",
   "Next page: Next page",
   "Previous page: Previous page",
   "Notes: Notes",
   "Posted: Posted",
   "Random: Random",
   "Search: Search",
   "Submit: Submit",
   "Tagged: Tagged",
   "Page CurrentPage of TotalPages: Page {CurrentPage} of {TotalPages}",
   ""]

/-- The strings of French. -/
def french : Text := lines
  ["About: À propos",
   "Archive: Archives",
   "Ask me anything: Posez-moi une question",
   "Newer posts: Articles plus récents",
   "Older posts: Articles plus anciens",
   "Next page: Page suivante",
   "Previous page: Page précédente",
   "Notes: Notes",
   "Posted: Publié",
   "Random: Au hasard",
   "Search: Rechercher",
   "Submit: Soumettre",
   "Tagged: Tagué",
   "Page CurrentPage of TotalPages: Page {CurrentPage} sur {TotalPages}",
   ""]

/-- The directory of the bundled data files: `defaults`, and in `locales` the strings `english` and
`french`. -/
def dataDirectory : FileNode :=
  .directory [
    ("defaults.yml".toList, file defaults),
    ("locales".toList, .directory [
      ("en.yml".toList, file english),
      ("fr.yml".toList, file french)])]

/-! ## Themes -/

/-- A page with posts. -/
def index : Text := lines
  ["<!DOCTYPE html>",
   "<html>",
   "<head>",
   "    <title>{Title}</title>",
   "    <meta name=\"description\" content=\"{MetaDescription}\">",
   "    <link rel=\"alternate\" type=\"application/rss+xml\" href=\"{RSS}\">",
   "    <script>var title = {JSTitle};</script>",
   "</head>",
   "<body>",
   "    <h1>{Title}</h1>",
   "    <nav><a href=\"/about\">{lang:About}</a> | <a href=\"/archive\">{lang:Archive}</a></nav>",
   "    {block:Posts}",
   "    <article class=\"post post-{PostType}{block:Odd} odd{/block:Odd}{block:Even} even{/block:Even}\">",
   "        {block:Text}",
   "        {block:Title}<h2><a href=\"{Permalink}\">{Title}</a></h2>{/block:Title}",
   "        {Body}",
   "        {/block:Text}",
   "        {block:Quote}",
   "        <blockquote>{Quote}</blockquote>",
   "        {block:Source}<cite>{Source}</cite>{/block:Source}",
   "        {/block:Quote}",
   "        <footer>",
   "            {lang:Posted} <time title=\"{TimeAgo}\">{Month} {DayOfMonth}{DayOfMonthSuffix}, {Year}</time>",
   "            {block:HasTags}{lang:Tagged}: {block:Tags}<a href=\"{TagURL}\">#{Tag}</a> {/block:Tags}{/block:HasTags}",
   "        </footer>",
   "    </article>",
   "    {/block:Posts}",
   "    {block:Pagination}<a href=\"{NextPage}\">{lang:Next page}</a>{/block:Pagination}",
   "</body>",
   "</html>",
   ""]

/-- A list of tags. -/
def tags : Text := lines
  ["{block:HasTags}<ul>{block:Tags}<li><a href=\"{TagURL}\">{Tag}</a></li>{/block:Tags}</ul>{/block:HasTags}",
   ""]

/-- A footer with a description. -/
def footer : Text := lines
  ["<footer>{block:Description}<p>{Description}</p>{/block:Description}<a href=\"{RSS}\">RSS</a></footer>",
   ""]

/-- A paragraph with a greeting. -/
def greeting : Text := lines
  ["",
   "        <p>{lang:About} {Title}</p>",
   "    "]

/-- The bundled themes by their names: `index`, `tags`, `footer` and `greeting`. -/
def themes : List (Text × Text) :=
  [("index".toList, index), ("tags".toList, tags), ("footer".toList, footer),
    ("greeting".toList, greeting)]

end Stencil.Bundled
