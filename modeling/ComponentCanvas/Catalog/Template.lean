import ComponentCanvas.Text.Lines

/-!
# Templates of the Built-In Catalog

The text of the module of each component, line by line.
-/

namespace ComponentCanvas.Catalog.Template

open Text (unlines)

/-- The module of the navigation bar. -/
def navbar : String := unlines [
  "import \x7b Menu \x7d from 'lucide-react';",
  "",
  "export default function Navbar(\x7b brand = 'Acme', links = [], ctaLabel = 'Get started' \x7d) \x7b",
  "  return (",
  "    <nav className=\"flex items-center justify-between px-6 py-4 border-b\">",
  "      <span className=\"text-xl font-bold\">\x7bbrand\x7d</span>",
  "      <ul className=\"hidden md:flex gap-6\">",
  "        \x7blinks.map((link) => (",
  "          <li key=\x7blink.href\x7d>",
  "            <a href=\x7blink.href\x7d className=\"text-gray-600 hover:text-gray-900\">\x7blink.label\x7d</a>",
  "          </li>",
  "        ))\x7d",
  "      </ul>",
  "      <button className=\"rounded-md bg-black px-4 py-2 text-white\">\x7bctaLabel\x7d</button>",
  "      <Menu className=\"md:hidden\" aria-hidden=\"true\" />",
  "    </nav>",
  "  );",
  "\x7d"]

/-- The module of the headline block. -/
def heroSection : String := unlines [
  "import \x7b motion \x7d from 'framer-motion';",
  "",
  "export default function HeroSection(\x7b title, subtitle, primaryAction, secondaryAction \x7d) \x7b",
  "  return (",
  "    <section className=\"px-6 py-24 text-center\">",
  "      <motion.h1",
  "        className=\"text-5xl font-extrabold tracking-tight\"",
  "        initial=\x7b\x7b opacity: 0, y: 16 \x7d\x7d",
  "        animate=\x7b\x7b opacity: 1, y: 0 \x7d\x7d",
  "      >",
  "        \x7btitle\x7d",
  "      </motion.h1>",
  "      <p className=\"mt-6 text-lg text-gray-600\">\x7bsubtitle\x7d</p>",
  "      <div className=\"mt-10 flex justify-center gap-4\">",
  "        <a className=\"rounded-md bg-black px-5 py-3 text-white\" href=\"#\">\x7bprimaryAction\x7d</a>",
  "        <a className=\"rounded-md border px-5 py-3\" href=\"#\">\x7bsecondaryAction\x7d</a>",
  "      </div>",
  "    </section>",
  "  );",
  "\x7d"]

/-- The module of the feature grid. -/
def featureGrid : String := unlines [
  "import \x7b CheckCircle \x7d from 'lucide-react';",
  "",
  "export default function FeatureGrid(\x7b heading, features = [] \x7d) \x7b",
  "  return (",
  "    <section id=\"features\" className=\"px-6 py-20\">",
  "      <h2 className=\"text-3xl font-bold text-center\">\x7bheading\x7d</h2>",
  "      <div className=\"mt-12 grid gap-8 md:grid-cols-3\">",
  "        \x7bfeatures.map((feature) => (",
  "          <div key=\x7bfeature.title\x7d className=\"rounded-lg border p-6\">",
  "            <CheckCircle className=\"h-6 w-6 text-green-600\" />",
  "            <h3 className=\"mt-4 font-semibold\">\x7bfeature.title\x7d</h3>",
  "            <p className=\"mt-2 text-gray-600\">\x7bfeature.description\x7d</p>",
  "          </div>",
  "        ))\x7d",
  "      </div>",
  "    </section>",
  "  );",
  "\x7d"]

/-- The module of the card. -/
def card : String := unlines [
  "export default function Card(\x7b title, body \x7d) \x7b",
  "  return (",
  "    <div className=\"rounded-lg border p-6 shadow-sm\">",
  "      <h3 className=\"text-lg font-semibold\">\x7btitle\x7d</h3>",
  "      \x7bbody && <p className=\"mt-2 text-gray-600\">\x7bbody\x7d</p>\x7d",
  "    </div>",
  "  );",
  "\x7d"]

/-- The module of the pricing table. -/
def pricingTable : String := unlines [
  "import \x7b Check \x7d from 'lucide-react';",
  "import clsx from 'clsx';",
  "",
  "export default function PricingTable(\x7b tiers = [], currency = '$' \x7d) \x7b",
  "  return (",
  "    <section id=\"pricing\" className=\"px-6 py-20\">",
  "      <div className=\"grid gap-8 md:grid-cols-2\">",
  "        \x7btiers.map((tier) => (",
  "          <div",
  "            key=\x7btier.name\x7d",
  "            className=\x7bclsx('rounded-lg border p-8', tier.highlighted && 'border-black shadow-lg')\x7d",
  "          >",
  "            <h3 className=\"text-xl font-semibold\">\x7btier.name\x7d</h3>",
  "            <p className=\"mt-4 text-4xl font-bold\">",
  "              \x7bcurrency\x7d",
  "              \x7btier.price\x7d",
  "            </p>",
  "            <ul className=\"mt-6 space-y-2\">",
  "              \x7btier.features.map((feature) => (",
  "                <li key=\x7bfeature\x7d className=\"flex items-center gap-2\">",
  "                  <Check className=\"h-4 w-4\" />",
  "                  \x7bfeature\x7d",
  "                </li>",
  "              ))\x7d",
  "            </ul>",
  "          </div>",
  "        ))\x7d",
  "      </div>",
  "    </section>",
  "  );",
  "\x7d"]

/-- The module of the testimonial. -/
def testimonial : String := unlines [
  "export default function Testimonial(\x7b quote, author, role \x7d) \x7b",
  "  return (",
  "    <figure className=\"mx-auto max-w-2xl px-6 py-16 text-center\">",
  "      <blockquote className=\"text-2xl italic\">&ldquo;\x7bquote\x7d&rdquo;</blockquote>",
  "      <figcaption className=\"mt-6 text-gray-600\">",
  "        \x7bauthor\x7d, \x7brole\x7d",
  "      </figcaption>",
  "    </figure>",
  "  );",
  "\x7d"]

/-- The module of the contact form. -/
def contactForm : String := unlines [
  "import \x7b useForm \x7d from 'react-hook-form';",
  "",
  "export default function ContactForm(\x7b heading, submitLabel \x7d) \x7b",
  "  const \x7b register, handleSubmit, reset \x7d = useForm();",
  "  const onSubmit = () => reset();",
  "",
  "  return (",
  "    <section id=\"contact\" className=\"mx-auto max-w-xl px-6 py-20\">",
  "      <h2 className=\"text-3xl font-bold\">\x7bheading\x7d</h2>",
  "      <form onSubmit=\x7bhandleSubmit(onSubmit)\x7d className=\"mt-8 space-y-4\">",
  "        <input \x7b...register('name')\x7d placeholder=\"Name\" className=\"w-full rounded-md border p-3\" />",
  "        <input \x7b...register('email')\x7d type=\"email\" placeholder=\"Email\" className=\"w-full rounded-md border p-3\" />",
  "        <textarea \x7b...register('message')\x7d placeholder=\"Message\" className=\"w-full rounded-md border p-3\" />",
  "        <button type=\"submit\" className=\"rounded-md bg-black px-5 py-3 text-white\">\x7bsubmitLabel\x7d</button>",
  "      </form>",
  "    </section>",
  "  );",
  "\x7d"]

/-- The module of the footer. -/
def footer : String := unlines [
  "export default function Footer(\x7b company, year \x7d) \x7b",
  "  return (",
  "    <footer className=\"border-t px-6 py-8 text-center text-sm text-gray-500\">",
  "      &copy; \x7byear\x7d \x7bcompany\x7d. All rights reserved.",
  "    </footer>",
  "  );",
  "\x7d"]

end ComponentCanvas.Catalog.Template
