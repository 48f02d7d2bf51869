import Subgraph.Text.Blank
import Subgraph.Text.Lower

/-!
Pictures that a text names between colons.

Pictures of people and hands have a form for each tone of skin, with the tone behind the first
character. The flag of a country goes by the name of the country too. A name that no picture has
stays as it is.
-/

namespace Subgraph.Console.Picture

/-- Names and their pictures by turns. -/
def named : List String :=
  ["1st_place_medal 🥇 2nd_place_medal 🥈 3rd_place_medal 🥉 ab_button_(blood_type) 🆎 atm_sign 🏧",
   "a_button_(blood_type) 🅰 afghanistan 🇦🇫 albania 🇦🇱 algeria 🇩🇿 american_samoa 🇦🇸 andorra 🇦🇩",
   "angola 🇦🇴 anguilla 🇦🇮 antarctica 🇦🇶 antigua_&_barbuda 🇦🇬 aquarius ♒ argentina 🇦🇷 aries ♈",
   "armenia 🇦🇲 aruba 🇦🇼 ascension_island 🇦🇨 australia 🇦🇺 austria 🇦🇹 azerbaijan 🇦🇿 back_arrow 🔙",
   "b_button_(blood_type) 🅱 bahamas 🇧🇸 bahrain 🇧🇭 bangladesh 🇧🇩 barbados 🇧🇧 belarus 🇧🇾 belgium 🇧🇪",
   "belize 🇧🇿 benin 🇧🇯 bermuda 🇧🇲 bhutan 🇧🇹 bolivia 🇧🇴 bosnia_&_herzegovina 🇧🇦 botswana 🇧🇼",
   "bouvet_island 🇧🇻 brazil 🇧🇷 british_indian_ocean_territory 🇮🇴 british_virgin_islands 🇻🇬",
   "brunei 🇧🇳 bulgaria 🇧🇬 burkina_faso 🇧🇫 burundi 🇧🇮 cl_button 🆑 cool_button 🆒 cambodia 🇰🇭",
   "cameroon 🇨🇲 canada 🇨🇦 canary_islands 🇮🇨 cancer ♋ cape_verde 🇨🇻 capricorn ♑",
   "caribbean_netherlands 🇧🇶 cayman_islands 🇰🇾 central_african_republic 🇨🇫 ceuta_&_melilla 🇪🇦",
   "chad 🇹🇩 chile 🇨🇱 china 🇨🇳 christmas_island 🇨🇽 christmas_tree 🎄 clipperton_island 🇨🇵",
   "cocos_(keeling)_islands 🇨🇨 colombia 🇨🇴 comoros 🇰🇲 congo_-_brazzaville 🇨🇬 congo_-_kinshasa 🇨🇩",
   "cook_islands 🇨🇰 costa_rica 🇨🇷 croatia 🇭🇷 cuba 🇨🇺 curaçao 🇨🇼 cyprus 🇨🇾 czechia 🇨🇿",
   "côte_d’ivoire 🇨🇮 denmark 🇩🇰 diego_garcia 🇩🇬 djibouti 🇩🇯 dominica 🇩🇲 dominican_republic 🇩🇴",
   "end_arrow 🔚 ecuador 🇪🇨 egypt 🇪🇬 el_salvador 🇸🇻 england 🏴󠁧󠁢󠁥󠁮󠁧󠁿 equatorial_guinea 🇬🇶",
   "eritrea 🇪🇷 estonia 🇪🇪 ethiopia 🇪🇹 european_union 🇪🇺 free_button 🆓 falkland_islands 🇫🇰",
   "faroe_islands 🇫🇴 fiji 🇫🇯 finland 🇫🇮 france 🇫🇷 french_guiana 🇬🇫 french_polynesia 🇵🇫",
   "french_southern_territories 🇹🇫 gabon 🇬🇦 gambia 🇬🇲 gemini ♊ georgia 🇬🇪 germany 🇩🇪 ghana 🇬🇭",
   "gibraltar 🇬🇮 greece 🇬🇷 greenland 🇬🇱 grenada 🇬🇩 guadeloupe 🇬🇵 guam 🇬🇺 guatemala 🇬🇹 guernsey 🇬🇬",
   "guinea 🇬🇳 guinea-bissau 🇬🇼 guyana 🇬🇾 haiti 🇭🇹 heard_&_mcdonald_islands 🇭🇲 honduras 🇭🇳",
   "hong_kong_sar_china 🇭🇰 hungary 🇭🇺 id_button 🆔 iceland 🇮🇸 india 🇮🇳 indonesia 🇮🇩 iran 🇮🇷",
   "iraq 🇮🇶 ireland 🇮🇪 isle_of_man 🇮🇲 israel 🇮🇱 italy 🇮🇹 jamaica 🇯🇲 japan 🗾",
   "japanese_acceptable_button 🉑 japanese_application_button 🈸 japanese_bargain_button 🉐",
   "japanese_castle 🏯 japanese_congratulations_button ㊗ japanese_discount_button 🈹",
   "japanese_dolls 🎎 japanese_free_of_charge_button 🈚 japanese_here_button 🈁",
   "japanese_monthly_amount_button 🈷 japanese_no_vacancy_button 🈵",
   "japanese_not_free_of_charge_button 🈶 japanese_open_for_business_button 🈺",
   "japanese_passing_grade_button 🈴 japanese_post_office 🏣 japanese_prohibited_button 🈲",
   "japanese_reserved_button 🈯 japanese_secret_button ㊙ japanese_service_charge_button 🈂",
   "japanese_symbol_for_beginner 🔰 japanese_vacancy_button 🈳 jersey 🇯🇪 jordan 🇯🇴 kazakhstan 🇰🇿",
   "kenya 🇰🇪 kiribati 🇰🇮 kosovo 🇽🇰 kuwait 🇰🇼 kyrgyzstan 🇰🇬 laos 🇱🇦 latvia 🇱🇻 lebanon 🇱🇧 leo ♌",
   "lesotho 🇱🇸 liberia 🇱🇷 libra ♎ libya 🇱🇾 liechtenstein 🇱🇮 lithuania 🇱🇹 luxembourg 🇱🇺",
   "macau_sar_china 🇲🇴 macedonia 🇲🇰 madagascar 🇲🇬 malawi 🇲🇼 malaysia 🇲🇾 maldives 🇲🇻 mali 🇲🇱",
   "malta 🇲🇹 marshall_islands 🇲🇭 martinique 🇲🇶 mauritania 🇲🇷 mauritius 🇲🇺 mayotte 🇾🇹 mexico 🇲🇽",
   "micronesia 🇫🇲 moldova 🇲🇩 monaco 🇲🇨 mongolia 🇲🇳 montenegro 🇲🇪 montserrat 🇲🇸 morocco 🇲🇦",
   "mozambique 🇲🇿 mrs._claus 🤶 myanmar_(burma) 🇲🇲 new_button 🆕 ng_button 🆖 namibia 🇳🇦 nauru 🇳🇷",
   "nepal 🇳🇵 netherlands 🇳🇱 new_caledonia 🇳🇨 new_zealand 🇳🇿 nicaragua 🇳🇮 niger 🇳🇪 nigeria 🇳🇬",
   "niue 🇳🇺 norfolk_island 🇳🇫 north_korea 🇰🇵 northern_mariana_islands 🇲🇵 norway 🇳🇴 ok_button 🆗",
   "ok_hand 👌 on!_arrow 🔛 o_button_(blood_type) 🅾 oman 🇴🇲 ophiuchus ⛎ p_button 🅿 pakistan 🇵🇰",
   "palau 🇵🇼 palestinian_territories 🇵🇸 panama 🇵🇦 papua_new_guinea 🇵🇬 paraguay 🇵🇾 peru 🇵🇪",
   "philippines 🇵🇭 pisces ♓ pitcairn_islands 🇵🇳 poland 🇵🇱 portugal 🇵🇹 puerto_rico 🇵🇷 qatar 🇶🇦",
   "romania 🇷🇴 russia 🇷🇺 rwanda 🇷🇼 réunion 🇷🇪 soon_arrow 🔜 sos_button 🆘 sagittarius ♐ samoa 🇼🇸",
   "san_marino 🇸🇲 santa_claus 🎅 saudi_arabia 🇸🇦 scorpio ♏ scotland 🏴󠁧󠁢󠁳󠁣󠁴󠁿 senegal 🇸🇳 serbia 🇷🇸",
   "seychelles 🇸🇨 sierra_leone 🇸🇱 singapore 🇸🇬 sint_maarten 🇸🇽 slovakia 🇸🇰 slovenia 🇸🇮",
   "solomon_islands 🇸🇧 somalia 🇸🇴 south_africa 🇿🇦 south_georgia_&_south_sandwich_islands 🇬🇸",
   "south_korea 🇰🇷 south_sudan 🇸🇸 spain 🇪🇸 sri_lanka 🇱🇰 st._barthélemy 🇧🇱 st._helena 🇸🇭",
   "st._kitts_&_nevis 🇰🇳 st._lucia 🇱🇨 st._martin 🇲🇫 st._pierre_&_miquelon 🇵🇲",
   "st._vincent_&_grenadines 🇻🇨 statue_of_liberty 🗽 sudan 🇸🇩 suriname 🇸🇷 svalbard_&_jan_mayen 🇸🇯",
   "swaziland 🇸🇿 sweden 🇸🇪 switzerland 🇨🇭 syria 🇸🇾 são_tomé_&_príncipe 🇸🇹 t-rex 🦖 top_arrow 🔝",
   "taiwan 🇹🇼 tajikistan 🇹🇯 tanzania 🇹🇿 taurus ♉ thailand 🇹🇭 timor-leste 🇹🇱 togo 🇹🇬 tokelau 🇹🇰",
   "tokyo_tower 🗼 tonga 🇹🇴 trinidad_&_tobago 🇹🇹 tristan_da_cunha 🇹🇦 tunisia 🇹🇳 turkey 🦃",
   "turkmenistan 🇹🇲 turks_&_caicos_islands 🇹🇨 tuvalu 🇹🇻 u.s._outlying_islands 🇺🇲",
   "u.s._virgin_islands 🇻🇮 up!_button 🆙 uganda 🇺🇬 ukraine 🇺🇦 united_arab_emirates 🇦🇪",
   "united_kingdom 🇬🇧 united_nations 🇺🇳 united_states 🇺🇸 uruguay 🇺🇾 uzbekistan 🇺🇿 vs_button 🆚",
   "vanuatu 🇻🇺 vatican_city 🇻🇦 venezuela 🇻🇪 vietnam 🇻🇳 virgo ♍ wales 🏴󠁧󠁢󠁷󠁬󠁳󠁿 wallis_&_futuna 🇼🇫",
   "western_sahara 🇪🇭 yemen 🇾🇪 zambia 🇿🇲 zimbabwe 🇿🇼 abacus 🧮 adhesive_bandage 🩹",
   "admission_tickets 🎟 adult 🧑 aerial_tramway 🚡 airplane ✈ airplane_arrival 🛬",
   "airplane_departure 🛫 alarm_clock ⏰ alembic ⚗ alien 👽 alien_monster 👾 ambulance 🚑",
   "american_football 🏈 amphora 🏺 anchor ⚓ anger_symbol 💢 angry_face 😠 angry_face_with_horns 👿",
   "anguished_face 😧 ant 🐜 antenna_bars 📶 anxious_face_with_sweat 😰 articulated_lorry 🚛",
   "artist_palette 🎨 astonished_face 😲 atom_symbol ⚛ auto_rickshaw 🛺 automobile 🚗 avocado 🥑 axe 🪓",
   "baby 👶 baby_angel 👼 baby_bottle 🍼 baby_chick 🐤 baby_symbol 🚼 backhand_index_pointing_down 👇",
   "backhand_index_pointing_left 👈 backhand_index_pointing_right 👉 backhand_index_pointing_up 👆",
   "bacon 🥓 badger 🦡 badminton 🏸 bagel 🥯 baggage_claim 🛄 baguette_bread 🥖 balance_scale ⚖ bald 🦲",
   "bald_man 👨\u200d🦲 bald_woman 👩\u200d🦲 ballet_shoes 🩰 balloon 🎈 ballot_box_with_ballot 🗳",
   "ballot_box_with_check ☑ banana 🍌 banjo 🪕 bank 🏦 bar_chart 📊 barber_pole 💈 baseball ⚾ basket 🧺",
   "basketball 🏀 bat 🦇 bathtub 🛁 battery 🔋 beach_with_umbrella 🏖 beaming_face_with_smiling_eyes 😁",
   "bear_face 🐻 bearded_person 🧔 beating_heart 💓 bed 🛏 beer_mug 🍺 bell 🔔 bell_with_slash 🔕",
   "bellhop_bell 🛎 bento_box 🍱 beverage_box 🧃 bicycle 🚲 bikini 👙 billed_cap 🧢 biohazard ☣ bird 🐦",
   "birthday_cake 🎂 black_circle ⚫ black_flag 🏴 black_heart 🖤 black_large_square ⬛",
   "black_medium-small_square ◾ black_medium_square ◼ black_nib ✒ black_small_square ▪",
   "black_square_button 🔲 blond-haired_man 👱\u200d♂\ufe0f blond-haired_person 👱",
   "blond-haired_woman 👱\u200d♀\ufe0f blossom 🌼 blowfish 🐡 blue_book 📘 blue_circle 🔵 blue_heart 💙",
   "blue_square 🟦 boar 🐗 bomb 💣 bone 🦴 bookmark 🔖 bookmark_tabs 📑 books 📚",
   "bottle_with_popping_cork 🍾 bouquet 💐 bow_and_arrow 🏹 bowl_with_spoon 🥣 bowling 🎳",
   "boxing_glove 🥊 boy 👦 brain 🧠 bread 🍞 breast-feeding 🤱 brick 🧱 bride_with_veil 👰",
   "bridge_at_night 🌉 briefcase 💼 briefs 🩲 bright_button 🔆 broccoli 🥦 broken_heart 💔 broom 🧹",
   "brown_circle 🟤 brown_heart 🤎 brown_square 🟫 bug 🐛 building_construction 🏗 bullet_train 🚅",
   "burrito 🌯 bus 🚌 bus_stop 🚏 bust_in_silhouette 👤 busts_in_silhouette 👥 butter 🧈 butterfly 🦋",
   "cactus 🌵 calendar 📆 call_me_hand 🤙 camel 🐫 camera 📷 camera_with_flash 📸 camping 🏕 candle 🕯",
   "candy 🍬 canned_food 🥫 canoe 🛶 card_file_box 🗃 card_index 📇 card_index_dividers 🗂",
   "carousel_horse 🎠 carp_streamer 🎏 carrot 🥕 castle 🏰 cat 🐱 cat_face 🐱",
   "cat_face_with_tears_of_joy 😹 cat_face_with_wry_smile 😼 chains ⛓ chair 🪑 chart_decreasing 📉",
   "chart_increasing 📈 chart_increasing_with_yen 💹 cheese_wedge 🧀 chequered_flag 🏁 cherries 🍒",
   "cherry_blossom 🌸 chess_pawn ♟ chestnut 🌰 chicken 🐔 child 🧒 children_crossing 🚸 chipmunk 🐿",
   "chocolate_bar 🍫 chopsticks 🥢 church ⛪ cigarette 🚬 cinema 🎦 circled_m Ⓜ circus_tent 🎪",
   "cityscape 🏙 cityscape_at_dusk 🌆 clamp 🗜 clapper_board 🎬 clapping_hands 👏 classical_building 🏛",
   "clinking_beer_mugs 🍻 clinking_glasses 🥂 clipboard 📋 clockwise_vertical_arrows 🔃 closed_book 📕",
   "closed_mailbox_with_lowered_flag 📪 closed_mailbox_with_raised_flag 📫 closed_umbrella 🌂",
   "cloud ☁ cloud_with_lightning 🌩 cloud_with_lightning_and_rain ⛈ cloud_with_rain 🌧",
   "cloud_with_snow 🌨 clown_face 🤡 club_suit ♣ clutch_bag 👝 coat 🧥 cocktail_glass 🍸 coconut 🥥",
   "coffin ⚰ cold_face 🥶 collision 💥 comet ☄ compass 🧭 computer_disk 💽 computer_mouse 🖱",
   "confetti_ball 🎊 confounded_face 😖 confused_face 😕 construction 🚧 construction_worker 👷",
   "control_knobs 🎛 convenience_store 🏪 cooked_rice 🍚 cookie 🍪 cooking 🍳 copyright ©",
   "couch_and_lamp 🛋 counterclockwise_arrows_button 🔄 couple_with_heart 💑",
   "couple_with_heart_man_man 👨\u200d❤\ufe0f\u200d👨",
   "couple_with_heart_woman_man 👩\u200d❤\ufe0f\u200d👨",
   "couple_with_heart_woman_woman 👩\u200d❤\ufe0f\u200d👩 cow 🐮 cow_face 🐮 cowboy_hat_face 🤠 crab 🦀",
   "crayon 🖍 credit_card 💳 crescent_moon 🌙 cricket 🦗 cricket_game 🏏 crocodile 🐊 croissant 🥐",
   "cross_mark ❌ cross_mark_button ❎ crossed_fingers 🤞 crossed_flags 🎌 crossed_swords ⚔ crown 👑",
   "crying_cat_face 😿 crying_face 😢 crystal_ball 🔮 cucumber 🥒 cupcake 🧁 cup_with_straw 🥤",
   "curling_stone 🥌 curly_hair 🦱 curly-haired_man 👨\u200d🦱 curly-haired_woman 👩\u200d🦱",
   "curly_loop ➰ currency_exchange 💱 curry_rice 🍛 custard 🍮 customs 🛃 cut_of_meat 🥩 cyclone 🌀",
   "dagger 🗡 dango 🍡 dashing_away 💨 deaf_person 🧏 deciduous_tree 🌳 deer 🦌 delivery_truck 🚚",
   "department_store 🏬 derelict_house 🏚 desert 🏜 desert_island 🏝 desktop_computer 🖥 detective 🕵",
   "diamond_suit ♦ diamond_with_a_dot 💠 dim_button 🔅 direct_hit 🎯 disappointed_face 😞",
   "diving_mask 🤿 diya_lamp 🪔 dizzy 💫 dizzy_face 😵 dna 🧬 dog 🐶 dog_face 🐶 dollar_banknote 💵",
   "dolphin 🐬 door 🚪 dotted_six-pointed_star 🔯 double_curly_loop ➿ double_exclamation_mark ‼",
   "doughnut 🍩 dove 🕊 down-left_arrow ↙ down-right_arrow ↘ down_arrow ⬇",
   "downcast_face_with_sweat 😓 downwards_button 🔽 dragon 🐉 dragon_face 🐲 dress 👗 drooling_face 🤤",
   "drop_of_blood 🩸 droplet 💧 drum 🥁 duck 🦆 dumpling 🥟 dvd 📀 e-mail 📧 eagle 🦅 ear 👂 ear_of_corn 🌽",
   "ear_with_hearing_aid 🦻 egg 🍳 eggplant 🍆 eight-pointed_star ✴ eight-spoked_asterisk ✳",
   "eight-thirty 🕣 eight_o’clock 🕗 eject_button ⏏ electric_plug 🔌 elephant 🐘 eleven-thirty 🕦",
   "eleven_o’clock 🕚 elf 🧝 envelope ✉ envelope_with_arrow 📩 euro_banknote 💶 evergreen_tree 🌲",
   "ewe 🐑 exclamation_mark ❗ exclamation_question_mark ⁉ exploding_head 🤯 expressionless_face 😑",
   "eye 👁 eye_in_speech_bubble 👁\ufe0f\u200d🗨\ufe0f eyes 👀 face_blowing_a_kiss 😘",
   "face_savoring_food 😋 face_screaming_in_fear 😱 face_vomiting 🤮 face_with_hand_over_mouth 🤭",
   "face_with_head-bandage 🤕 face_with_medical_mask 😷 face_with_monocle 🧐 face_with_open_mouth 😮",
   "face_with_raised_eyebrow 🤨 face_with_rolling_eyes 🙄 face_with_steam_from_nose 😤",
   "face_with_symbols_on_mouth 🤬 face_with_tears_of_joy 😂 face_with_thermometer 🤒",
   "face_with_tongue 😛 face_without_mouth 😶 factory 🏭 fairy 🧚 falafel 🧆 fallen_leaf 🍂 family 👪",
   "family_man_boy 👨\u200d👦 family_man_boy_boy 👨\u200d👦\u200d👦 family_man_girl 👨\u200d👧",
   "family_man_girl_boy 👨\u200d👧\u200d👦 family_man_girl_girl 👨\u200d👧\u200d👧",
   "family_man_man_boy 👨\u200d👨\u200d👦 family_man_man_boy_boy 👨\u200d👨\u200d👦\u200d👦",
   "family_man_man_girl 👨\u200d👨\u200d👧 family_man_man_girl_boy 👨\u200d👨\u200d👧\u200d👦",
   "family_man_man_girl_girl 👨\u200d👨\u200d👧\u200d👧 family_man_woman_boy 👨\u200d👩\u200d👦",
   "family_man_woman_boy_boy 👨\u200d👩\u200d👦\u200d👦 family_man_woman_girl 👨\u200d👩\u200d👧",
   "family_man_woman_girl_boy 👨\u200d👩\u200d👧\u200d👦",
   "family_man_woman_girl_girl 👨\u200d👩\u200d👧\u200d👧 family_woman_boy 👩\u200d👦",
   "family_woman_boy_boy 👩\u200d👦\u200d👦 family_woman_girl 👩\u200d👧",
   "family_woman_girl_boy 👩\u200d👧\u200d👦 family_woman_girl_girl 👩\u200d👧\u200d👧",
   "family_woman_woman_boy 👩\u200d👩\u200d👦 family_woman_woman_boy_boy 👩\u200d👩\u200d👦\u200d👦",
   "family_woman_woman_girl 👩\u200d👩\u200d👧 family_woman_woman_girl_boy 👩\u200d👩\u200d👧\u200d👦",
   "family_woman_woman_girl_girl 👩\u200d👩\u200d👧\u200d👧 fast-forward_button ⏩ fast_down_button ⏬",
   "fast_reverse_button ⏪ fast_up_button ⏫ fax_machine 📠 fearful_face 😨 female_sign ♀",
   "ferris_wheel 🎡 ferry ⛴ field_hockey 🏑 file_cabinet 🗄 file_folder 📁 film_frames 🎞",
   "film_projector 📽 fire 🔥 fire_extinguisher 🧯 firecracker 🧨 fire_engine 🚒 fireworks 🎆",
   "first_quarter_moon 🌓 first_quarter_moon_face 🌛 fish 🐟 fish_cake_with_swirl 🍥 fishing_pole 🎣",
   "five-thirty 🕠 five_o’clock 🕔 flag_in_hole ⛳ flamingo 🦩 flashlight 🔦 flat_shoe 🥿",
   "fleur-de-lis ⚜ flexed_biceps 💪 floppy_disk 💾 flower_playing_cards 🎴 flushed_face 😳",
   "flying_disc 🥏 flying_saucer 🛸 fog 🌫 foggy 🌁 folded_hands 🙏 foot 🦶 footprints 👣",
   "fork_and_knife 🍴 fork_and_knife_with_plate 🍽 fortune_cookie 🥠 fountain ⛲ fountain_pen 🖋",
   "four-thirty 🕟 four_leaf_clover 🍀 four_o’clock 🕓 fox_face 🦊 framed_picture 🖼 french_fries 🍟",
   "fried_shrimp 🍤 frog_face 🐸 front-facing_baby_chick 🐥 frowning_face ☹",
   "frowning_face_with_open_mouth 😦 fuel_pump ⛽ full_moon 🌕 full_moon_face 🌝 funeral_urn ⚱",
   "game_die 🎲 garlic 🧄 gear ⚙ gem_stone 💎 genie 🧞 ghost 👻 giraffe 🦒 girl 👧 glass_of_milk 🥛",
   "glasses 👓 globe_showing_americas 🌎 globe_showing_asia-australia 🌏",
   "globe_showing_europe-africa 🌍 globe_with_meridians 🌐 gloves 🧤 glowing_star 🌟 goal_net 🥅",
   "goat 🐐 goblin 👺 goggles 🥽 gorilla 🦍 graduation_cap 🎓 grapes 🍇 green_apple 🍏 green_book 📗",
   "green_circle 🟢 green_heart 💚 green_salad 🥗 green_square 🟩 grimacing_face 😬",
   "grinning_cat_face 😺 grinning_cat_face_with_smiling_eyes 😸 grinning_face 😀",
   "grinning_face_with_big_eyes 😃 grinning_face_with_smiling_eyes 😄 grinning_face_with_sweat 😅",
   "grinning_squinting_face 😆 growing_heart 💗 guard 💂 guide_dog 🦮 guitar 🎸 hamburger 🍔 hammer 🔨",
   "hammer_and_pick ⚒ hammer_and_wrench 🛠 hamster_face 🐹 hand_with_fingers_splayed 🖐 handbag 👜",
   "handshake 🤝 hatching_chick 🐣 headphone 🎧 hear-no-evil_monkey 🙉 heart_decoration 💟",
   "heart_suit ♥ heart_with_arrow 💘 heart_with_ribbon 💝 heavy_check_mark ✔ heavy_division_sign ➗",
   "heavy_dollar_sign 💲 heavy_heart_exclamation ❣ heavy_large_circle ⭕ heavy_minus_sign ➖",
   "heavy_multiplication_x ✖ heavy_plus_sign ➕ hedgehog 🦔 helicopter 🚁 herb 🌿 hibiscus 🌺",
   "high-heeled_shoe 👠 high-speed_train 🚄 high_voltage ⚡ hiking_boot 🥾 hindu_temple 🛕",
   "hippopotamus 🦛 hole 🕳 honey_pot 🍯 honeybee 🐝 horizontal_traffic_light 🚥 horse 🐴 horse_face 🐴",
   "horse_racing 🏇 hospital 🏥 hot_beverage ☕ hot_dog 🌭 hot_face 🥵 hot_pepper 🌶 hot_springs ♨",
   "hotel 🏨 hourglass_done ⌛ hourglass_not_done ⏳ house 🏠 house_with_garden 🏡 houses 🏘",
   "hugging_face 🤗 hundred_points 💯 hushed_face 😯 ice 🧊 ice_cream 🍨 ice_hockey 🏒 ice_skate ⛸",
   "inbox_tray 📥 incoming_envelope 📨 index_pointing_up ☝ infinity ♾ information ℹ",
   "input_latin_letters 🔤 input_latin_lowercase 🔡 input_latin_uppercase 🔠 input_numbers 🔢",
   "input_symbols 🔣 jack-o-lantern 🎃 jeans 👖 jigsaw 🧩 joker 🃏 joystick 🕹 kaaba 🕋 kangaroo 🦘 key 🔑",
   "keyboard ⌨ keycap_# #\ufe0f\u20e3 keycap_* *\ufe0f\u20e3 keycap_0 0\ufe0f\u20e3",
   "keycap_1 1\ufe0f\u20e3 keycap_10 🔟 keycap_2 2\ufe0f\u20e3 keycap_3 3\ufe0f\u20e3",
   "keycap_4 4\ufe0f\u20e3 keycap_5 5\ufe0f\u20e3 keycap_6 6\ufe0f\u20e3 keycap_7 7\ufe0f\u20e3",
   "keycap_8 8\ufe0f\u20e3 keycap_9 9\ufe0f\u20e3 kick_scooter 🛴 kimono 👘 kiss 💋",
   "kiss_man_man 👨\u200d❤\ufe0f\u200d💋\u200d👨 kiss_mark 💋",
   "kiss_woman_man 👩\u200d❤\ufe0f\u200d💋\u200d👨 kiss_woman_woman 👩\u200d❤\ufe0f\u200d💋\u200d👩",
   "kissing_cat_face 😽 kissing_face 😗 kissing_face_with_closed_eyes 😚",
   "kissing_face_with_smiling_eyes 😙 kitchen_knife 🔪 kite 🪁 kiwi_fruit 🥝 koala 🐨 lab_coat 🥼",
   "label 🏷 lacrosse 🥍 lady_beetle 🐞 laptop_computer 💻 large_blue_diamond 🔷",
   "large_orange_diamond 🔶 last_quarter_moon 🌗 last_quarter_moon_face 🌜 last_track_button ⏮",
   "latin_cross ✝ leaf_fluttering_in_wind 🍃 leafy_green 🥬 ledger 📒 left-facing_fist 🤛",
   "left-right_arrow ↔ left_arrow ⬅ left_arrow_curving_right ↪ left_luggage 🛅",
   "left_speech_bubble 🗨 leg 🦵 lemon 🍋 leopard 🐆 level_slider 🎚 light_bulb 💡 light_rail 🚈 link 🔗",
   "linked_paperclips 🖇 lion_face 🦁 lipstick 💄 litter_in_bin_sign 🚮 lizard 🦎 llama 🦙 lobster 🦞",
   "locked 🔒 locked_with_key 🔐 locked_with_pen 🔏 locomotive 🚂 lollipop 🍭 lotion_bottle 🧴",
   "loudly_crying_face 😭 loudspeaker 📢 love-you_gesture 🤟 love_hotel 🏩 love_letter 💌 luggage 🧳",
   "lying_face 🤥 mage 🧙 magnet 🧲 magnifying_glass_tilted_left 🔍 magnifying_glass_tilted_right 🔎",
   "mahjong_red_dragon 🀄 male_sign ♂ man 👨 man_and_woman_holding_hands 👫 man_artist 👨\u200d🎨",
   "man_astronaut 👨\u200d🚀 man_biking 🚴\u200d♂\ufe0f man_bouncing_ball ⛹\ufe0f\u200d♂\ufe0f",
   "man_bowing 🙇\u200d♂\ufe0f man_cartwheeling 🤸\u200d♂\ufe0f man_climbing 🧗\u200d♂\ufe0f",
   "man_construction_worker 👷\u200d♂\ufe0f man_cook 👨\u200d🍳 man_dancing 🕺",
   "man_detective 🕵\ufe0f\u200d♂\ufe0f man_elf 🧝\u200d♂\ufe0f man_facepalming 🤦\u200d♂\ufe0f",
   "man_factory_worker 👨\u200d🏭 man_fairy 🧚\u200d♂\ufe0f man_farmer 👨\u200d🌾",
   "man_firefighter 👨\u200d🚒 man_frowning 🙍\u200d♂\ufe0f man_genie 🧞\u200d♂\ufe0f",
   "man_gesturing_no 🙅\u200d♂\ufe0f man_gesturing_ok 🙆\u200d♂\ufe0f",
   "man_getting_haircut 💇\u200d♂\ufe0f man_getting_massage 💆\u200d♂\ufe0f",
   "man_golfing 🏌\ufe0f\u200d♂\ufe0f man_guard 💂\u200d♂\ufe0f man_health_worker 👨\u200d⚕\ufe0f",
   "man_in_lotus_position 🧘\u200d♂\ufe0f man_in_manual_wheelchair 👨\u200d🦽",
   "man_in_motorized_wheelchair 👨\u200d🦼 man_in_steamy_room 🧖\u200d♂\ufe0f",
   "man_in_suit_levitating 🕴 man_in_tuxedo 🤵 man_judge 👨\u200d⚖\ufe0f man_juggling 🤹\u200d♂\ufe0f",
   "man_lifting_weights 🏋\ufe0f\u200d♂\ufe0f man_mage 🧙\u200d♂\ufe0f man_mechanic 👨\u200d🔧",
   "man_mountain_biking 🚵\u200d♂\ufe0f man_office_worker 👨\u200d💼 man_pilot 👨\u200d✈\ufe0f",
   "man_playing_handball 🤾\u200d♂\ufe0f man_playing_water_polo 🤽\u200d♂\ufe0f",
   "man_police_officer 👮\u200d♂\ufe0f man_pouting 🙎\u200d♂\ufe0f man_raising_hand 🙋\u200d♂\ufe0f",
   "man_rowing_boat 🚣\u200d♂\ufe0f man_running 🏃\u200d♂\ufe0f man_scientist 👨\u200d🔬",
   "man_shrugging 🤷\u200d♂\ufe0f man_singer 👨\u200d🎤 man_student 👨\u200d🎓",
   "man_surfing 🏄\u200d♂\ufe0f man_swimming 🏊\u200d♂\ufe0f man_teacher 👨\u200d🏫",
   "man_technologist 👨\u200d💻 man_tipping_hand 💁\u200d♂\ufe0f man_vampire 🧛\u200d♂\ufe0f",
   "man_walking 🚶\u200d♂\ufe0f man_wearing_turban 👳\u200d♂\ufe0f man_with_probing_cane 👨\u200d🦯",
   "man_with_chinese_cap 👲 man_zombie 🧟\u200d♂\ufe0f mango 🥭 mantelpiece_clock 🕰",
   "manual_wheelchair 🦽 man’s_shoe 👞 map_of_japan 🗾 maple_leaf 🍁 martial_arts_uniform 🥋 mate 🧉",
   "meat_on_bone 🍖 mechanical_arm 🦾 mechanical_leg 🦿 medical_symbol ⚕ megaphone 📣 melon 🍈 memo 📝",
   "men_with_bunny_ears 👯\u200d♂\ufe0f men_wrestling 🤼\u200d♂\ufe0f menorah 🕎 men’s_room 🚹",
   "mermaid 🧜\u200d♀\ufe0f merman 🧜\u200d♂\ufe0f merperson 🧜 metro 🚇 microbe 🦠 microphone 🎤",
   "microscope 🔬 middle_finger 🖕 military_medal 🎖 milky_way 🌌 minibus 🚐 moai 🗿 mobile_phone 📱",
   "mobile_phone_off 📴 mobile_phone_with_arrow 📲 money-mouth_face 🤑 money_bag 💰",
   "money_with_wings 💸 monkey 🐒 monkey_face 🐵 monorail 🚝 moon_cake 🥮 moon_viewing_ceremony 🎑",
   "mosque 🕌 mosquito 🦟 motor_boat 🛥 motor_scooter 🛵 motorcycle 🏍 motorized_wheelchair 🦼",
   "motorway 🛣 mount_fuji 🗻 mountain ⛰ mountain_cableway 🚠 mountain_railway 🚞 mouse 🐭",
   "mouse_face 🐭 mouth 👄 movie_camera 🎥 mushroom 🍄 musical_keyboard 🎹 musical_note 🎵",
   "musical_notes 🎶 musical_score 🎼 muted_speaker 🔇 nail_polish 💅 name_badge 📛 national_park 🏞",
   "nauseated_face 🤢 nazar_amulet 🧿 necktie 👔 nerd_face 🤓 neutral_face 😐 new_moon 🌑",
   "new_moon_face 🌚 newspaper 📰 next_track_button ⏭ night_with_stars 🌃 nine-thirty 🕤",
   "nine_o’clock 🕘 no_bicycles 🚳 no_entry ⛔ no_littering 🚯 no_mobile_phones 📵",
   "no_one_under_eighteen 🔞 no_pedestrians 🚷 no_smoking 🚭 non-potable_water 🚱 nose 👃 notebook 📓",
   "notebook_with_decorative_cover 📔 nut_and_bolt 🔩 octopus 🐙 oden 🍢 office_building 🏢 ogre 👹",
   "oil_drum 🛢 old_key 🗝 old_man 👴 old_woman 👵 older_adult 🧓 om 🕉 oncoming_automobile 🚘",
   "oncoming_bus 🚍 oncoming_fist 👊 oncoming_police_car 🚔 oncoming_taxi 🚖 one-piece_swimsuit 🩱",
   "one-thirty 🕜 one_o’clock 🕐 onion 🧅 open_book 📖 open_file_folder 📂 open_hands 👐",
   "open_mailbox_with_lowered_flag 📭 open_mailbox_with_raised_flag 📬 optical_disk 💿 orange_book 📙",
   "orange_circle 🟠 orange_heart 🧡 orange_square 🟧 orangutan 🦧 orthodox_cross ☦ otter 🦦",
   "outbox_tray 📤 owl 🦉 ox 🐂 oyster 🦪 package 📦 page_facing_up 📄 page_with_curl 📃 pager 📟",
   "paintbrush 🖌 palm_tree 🌴 palms_up_together 🤲 pancakes 🥞 panda_face 🐼 paperclip 📎 parrot 🦜",
   "part_alternation_mark 〽 party_popper 🎉 partying_face 🥳 passenger_ship 🛳 passport_control 🛂",
   "pause_button ⏸ paw_prints 🐾 peace_symbol ☮ peach 🍑 peacock 🦚 peanuts 🥜 pear 🍐 pen 🖊 pencil 📝",
   "penguin 🐧 pensive_face 😔 people_holding_hands 🧑\u200d🤝\u200d🧑 people_with_bunny_ears 👯",
   "people_wrestling 🤼 performing_arts 🎭 persevering_face 😣 person_biking 🚴",
   "person_bouncing_ball ⛹ person_bowing 🙇 person_cartwheeling 🤸 person_climbing 🧗",
   "person_facepalming 🤦 person_fencing 🤺 person_frowning 🙍 person_gesturing_no 🙅",
   "person_gesturing_ok 🙆 person_getting_haircut 💇 person_getting_massage 💆 person_golfing 🏌",
   "person_in_bed 🛌 person_in_lotus_position 🧘 person_in_steamy_room 🧖 person_juggling 🤹",
   "person_kneeling 🧎 person_lifting_weights 🏋 person_mountain_biking 🚵 person_playing_handball 🤾",
   "person_playing_water_polo 🤽 person_pouting 🙎 person_raising_hand 🙋 person_rowing_boat 🚣",
   "person_running 🏃 person_shrugging 🤷 person_standing 🧍 person_surfing 🏄 person_swimming 🏊",
   "person_taking_bath 🛀 person_tipping_hand 💁 person_walking 🚶 person_wearing_turban 👳",
   "petri_dish 🧫 pick ⛏ pie 🥧 pig 🐷 pig_face 🐷 pig_nose 🐽 pile_of_poo 💩 pill 💊 pinching_hand 🤏",
   "pine_decoration 🎍 pineapple 🍍 ping_pong 🏓 pirate_flag 🏴\u200d☠\ufe0f pistol 🔫 pizza 🍕",
   "place_of_worship 🛐 play_button ▶ play_or_pause_button ⏯ pleading_face 🥺 police_car 🚓",
   "police_car_light 🚨 police_officer 👮 poodle 🐩 pool_8_ball 🎱 popcorn 🍿 post_office 🏣",
   "postal_horn 📯 postbox 📮 pot_of_food 🍲 potable_water 🚰 potato 🥔 poultry_leg 🍗 pound_banknote 💷",
   "pouting_cat_face 😾 pouting_face 😡 prayer_beads 📿 pregnant_woman 🤰 pretzel 🥨 probing_cane 🦯",
   "prince 🤴 princess 👸 printer 🖨 prohibited 🚫 purple_circle 🟣 purple_heart 💜 purple_square 🟪",
   "purse 👛 pushpin 📌 question_mark ❓ rabbit 🐰 rabbit_face 🐰 raccoon 🦝 racing_car 🏎 radio 📻",
   "radio_button 🔘 radioactive ☢ railway_car 🚃 railway_track 🛤 rainbow 🌈",
   "rainbow_flag 🏳\ufe0f\u200d🌈 raised_back_of_hand 🤚 raised_fist ✊ raised_hand ✋ raising_hands 🙌",
   "ram 🐏 rat 🐀 razor 🪒 ringed_planet 🪐 receipt 🧾 record_button ⏺ recycling_symbol ♻ red_apple 🍎",
   "red_circle 🔴 red_envelope 🧧 red_hair 🦰 red-haired_man 👨\u200d🦰 red-haired_woman 👩\u200d🦰",
   "red_heart ❤ red_paper_lantern 🏮 red_square 🟥 red_triangle_pointed_down 🔻",
   "red_triangle_pointed_up 🔺 registered ® relieved_face 😌 reminder_ribbon 🎗 repeat_button 🔁",
   "repeat_single_button 🔂 rescue_worker’s_helmet ⛑ restroom 🚻 reverse_button ◀",
   "revolving_hearts 💞 rhinoceros 🦏 ribbon 🎀 rice_ball 🍙 rice_cracker 🍘 right-facing_fist 🤜",
   "right_anger_bubble 🗯 right_arrow ➡ right_arrow_curving_down ⤵ right_arrow_curving_left ↩",
   "right_arrow_curving_up ⤴ ring 💍 roasted_sweet_potato 🍠 robot_face 🤖 rocket 🚀 roll_of_paper 🧻",
   "rolled-up_newspaper 🗞 roller_coaster 🎢 rolling_on_the_floor_laughing 🤣 rooster 🐓 rose 🌹",
   "rosette 🏵 round_pushpin 📍 rugby_football 🏉 running_shirt 🎽 running_shoe 👟",
   "sad_but_relieved_face 😥 safety_pin 🧷 safety_vest 🦺 salt 🧂 sailboat ⛵ sake 🍶 sandwich 🥪 sari 🥻",
   "satellite 📡 satellite_antenna 📡 sauropod 🦕 saxophone 🎷 scarf 🧣 school 🏫 school_backpack 🎒",
   "scissors ✂ scorpion 🦂 scroll 📜 seat 💺 see-no-evil_monkey 🙈 seedling 🌱 selfie 🤳",
   "service_dog 🐕\u200d🦺 seven-thirty 🕢 seven_o’clock 🕖 shallow_pan_of_food 🥘 shamrock ☘ shark 🦈",
   "shaved_ice 🍧 sheaf_of_rice 🌾 shield 🛡 shinto_shrine ⛩ ship 🚢 shooting_star 🌠 shopping_bags 🛍",
   "shopping_cart 🛒 shortcake 🍰 shorts 🩳 shower 🚿 shrimp 🦐 shuffle_tracks_button 🔀",
   "shushing_face 🤫 sign_of_the_horns 🤘 six-thirty 🕡 six_o’clock 🕕 skateboard 🛹 skier ⛷ skis 🎿",
   "skull 💀 skull_and_crossbones ☠ skunk 🦨 sled 🛷 sleeping_face 😴 sleepy_face 😪",
   "slightly_frowning_face 🙁 slightly_smiling_face 🙂 slot_machine 🎰 sloth 🦥 small_airplane 🛩",
   "small_blue_diamond 🔹 small_orange_diamond 🔸 smiling_cat_face_with_heart-eyes 😻 smiling_face ☺",
   "smiling_face_with_halo 😇 smiling_face_with_3_hearts 🥰 smiling_face_with_heart-eyes 😍",
   "smiling_face_with_horns 😈 smiling_face_with_smiling_eyes 😊 smiling_face_with_sunglasses 😎",
   "smirking_face 😏 snail 🐌 snake 🐍 sneezing_face 🤧 snow-capped_mountain 🏔 snowboarder 🏂",
   "snowflake ❄ snowman ☃ snowman_without_snow ⛄ soap 🧼 soccer_ball ⚽ socks 🧦 softball 🥎",
   "soft_ice_cream 🍦 spade_suit ♠ spaghetti 🍝 sparkle ❇ sparkler 🎇 sparkles ✨ sparkling_heart 💖",
   "speak-no-evil_monkey 🙊 speaker_high_volume 🔊 speaker_low_volume 🔈 speaker_medium_volume 🔉",
   "speaking_head 🗣 speech_balloon 💬 speedboat 🚤 spider 🕷 spider_web 🕸 spiral_calendar 🗓",
   "spiral_notepad 🗒 spiral_shell 🐚 spoon 🥄 sponge 🧽 sport_utility_vehicle 🚙 sports_medal 🏅",
   "spouting_whale 🐳 squid 🦑 squinting_face_with_tongue 😝 stadium 🏟 star-struck 🤩",
   "star_and_crescent ☪ star_of_david ✡ station 🚉 steaming_bowl 🍜 stethoscope 🩺 stop_button ⏹",
   "stop_sign 🛑 stopwatch ⏱ straight_ruler 📏 strawberry 🍓 studio_microphone 🎙 stuffed_flatbread 🥙",
   "sun ☀ sun_behind_cloud ⛅ sun_behind_large_cloud 🌥 sun_behind_rain_cloud 🌦",
   "sun_behind_small_cloud 🌤 sun_with_face 🌞 sunflower 🌻 sunglasses 😎 sunrise 🌅",
   "sunrise_over_mountains 🌄 sunset 🌇 superhero 🦸 supervillain 🦹 sushi 🍣 suspension_railway 🚟",
   "swan 🦢 sweat_droplets 💦 synagogue 🕍 syringe 💉 t-shirt 👕 taco 🌮 takeout_box 🥡 tanabata_tree 🎋",
   "tangerine 🍊 taxi 🚕 teacup_without_handle 🍵 tear-off_calendar 📆 teddy_bear 🧸 telephone ☎",
   "telephone_receiver 📞 telescope 🔭 television 📺 ten-thirty 🕥 ten_o’clock 🕙 tennis 🎾 tent ⛺",
   "test_tube 🧪 thermometer 🌡 thinking_face 🤔 thought_balloon 💭 thread 🧵 three-thirty 🕞",
   "three_o’clock 🕒 thumbs_down 👎 thumbs_up 👍 ticket 🎫 tiger 🐯 tiger_face 🐯 timer_clock ⏲",
   "tired_face 😫 toolbox 🧰 toilet 🚽 tomato 🍅 tongue 👅 tooth 🦷 top_hat 🎩 tornado 🌪 trackball 🖲",
   "tractor 🚜 trade_mark ™ train 🚋 tram 🚊 tram_car 🚋 triangular_flag 🚩 triangular_ruler 📐",
   "trident_emblem 🔱 trolleybus 🚎 trophy 🏆 tropical_drink 🍹 tropical_fish 🐠 trumpet 🎺 tulip 🌷",
   "tumbler_glass 🥃 turtle 🐢 twelve-thirty 🕧 twelve_o’clock 🕛 two-hump_camel 🐫 two-thirty 🕝",
   "two_hearts 💕 two_men_holding_hands 👬 two_o’clock 🕑 two_women_holding_hands 👭 umbrella ☂",
   "umbrella_on_ground ⛱ umbrella_with_rain_drops ☔ unamused_face 😒 unicorn_face 🦄 unlocked 🔓",
   "up-down_arrow ↕ up-left_arrow ↖ up-right_arrow ↗ up_arrow ⬆ upside-down_face 🙃",
   "upwards_button 🔼 vampire 🧛 vertical_traffic_light 🚦 vibration_mode 📳 victory_hand ✌",
   "video_camera 📹 video_game 🎮 videocassette 📼 violin 🎻 volcano 🌋 volleyball 🏐 vulcan_salute 🖖",
   "waffle 🧇 waning_crescent_moon 🌘 waning_gibbous_moon 🌖 warning ⚠ wastebasket 🗑 watch ⌚",
   "water_buffalo 🐃 water_closet 🚾 water_wave 🌊 watermelon 🍉 waving_hand 👋 wavy_dash 〰",
   "waxing_crescent_moon 🌒 waxing_gibbous_moon 🌔 weary_cat_face 🙀 weary_face 😩 wedding 💒 whale 🐳",
   "wheel_of_dharma ☸ wheelchair_symbol ♿ white_circle ⚪ white_exclamation_mark ❕ white_flag 🏳",
   "white_flower 💮 white_hair 🦳 white-haired_man 👨\u200d🦳 white-haired_woman 👩\u200d🦳",
   "white_heart 🤍 white_heavy_check_mark ✅ white_large_square ⬜ white_medium-small_square ◽",
   "white_medium_square ◻ white_medium_star ⭐ white_question_mark ❔ white_small_square ▫",
   "white_square_button 🔳 wilted_flower 🥀 wind_chime 🎐 wind_face 🌬 wine_glass 🍷 winking_face 😉",
   "winking_face_with_tongue 😜 wolf_face 🐺 woman 👩 woman_artist 👩\u200d🎨 woman_astronaut 👩\u200d🚀",
   "woman_biking 🚴\u200d♀\ufe0f woman_bouncing_ball ⛹\ufe0f\u200d♀\ufe0f",
   "woman_bowing 🙇\u200d♀\ufe0f woman_cartwheeling 🤸\u200d♀\ufe0f woman_climbing 🧗\u200d♀\ufe0f",
   "woman_construction_worker 👷\u200d♀\ufe0f woman_cook 👩\u200d🍳 woman_dancing 💃",
   "woman_detective 🕵\ufe0f\u200d♀\ufe0f woman_elf 🧝\u200d♀\ufe0f",
   "woman_facepalming 🤦\u200d♀\ufe0f woman_factory_worker 👩\u200d🏭 woman_fairy 🧚\u200d♀\ufe0f",
   "woman_farmer 👩\u200d🌾 woman_firefighter 👩\u200d🚒 woman_frowning 🙍\u200d♀\ufe0f",
   "woman_genie 🧞\u200d♀\ufe0f woman_gesturing_no 🙅\u200d♀\ufe0f",
   "woman_gesturing_ok 🙆\u200d♀\ufe0f woman_getting_haircut 💇\u200d♀\ufe0f",
   "woman_getting_massage 💆\u200d♀\ufe0f woman_golfing 🏌\ufe0f\u200d♀\ufe0f",
   "woman_guard 💂\u200d♀\ufe0f woman_health_worker 👩\u200d⚕\ufe0f",
   "woman_in_lotus_position 🧘\u200d♀\ufe0f woman_in_manual_wheelchair 👩\u200d🦽",
   "woman_in_motorized_wheelchair 👩\u200d🦼 woman_in_steamy_room 🧖\u200d♀\ufe0f",
   "woman_judge 👩\u200d⚖\ufe0f woman_juggling 🤹\u200d♀\ufe0f",
   "woman_lifting_weights 🏋\ufe0f\u200d♀\ufe0f woman_mage 🧙\u200d♀\ufe0f woman_mechanic 👩\u200d🔧",
   "woman_mountain_biking 🚵\u200d♀\ufe0f woman_office_worker 👩\u200d💼 woman_pilot 👩\u200d✈\ufe0f",
   "woman_playing_handball 🤾\u200d♀\ufe0f woman_playing_water_polo 🤽\u200d♀\ufe0f",
   "woman_police_officer 👮\u200d♀\ufe0f woman_pouting 🙎\u200d♀\ufe0f",
   "woman_raising_hand 🙋\u200d♀\ufe0f woman_rowing_boat 🚣\u200d♀\ufe0f",
   "woman_running 🏃\u200d♀\ufe0f woman_scientist 👩\u200d🔬 woman_shrugging 🤷\u200d♀\ufe0f",
   "woman_singer 👩\u200d🎤 woman_student 👩\u200d🎓 woman_surfing 🏄\u200d♀\ufe0f",
   "woman_swimming 🏊\u200d♀\ufe0f woman_teacher 👩\u200d🏫 woman_technologist 👩\u200d💻",
   "woman_tipping_hand 💁\u200d♀\ufe0f woman_vampire 🧛\u200d♀\ufe0f woman_walking 🚶\u200d♀\ufe0f",
   "woman_wearing_turban 👳\u200d♀\ufe0f woman_with_headscarf 🧕 woman_with_probing_cane 👩\u200d🦯",
   "woman_zombie 🧟\u200d♀\ufe0f woman’s_boot 👢 woman’s_clothes 👚 woman’s_hat 👒 woman’s_sandal 👡",
   "women_with_bunny_ears 👯\u200d♀\ufe0f women_wrestling 🤼\u200d♀\ufe0f women’s_room 🚺",
   "woozy_face 🥴 world_map 🗺 worried_face 😟 wrapped_gift 🎁 wrench 🔧 writing_hand ✍ yarn 🧶",
   "yawning_face 🥱 yellow_circle 🟡 yellow_heart 💛 yellow_square 🟨 yen_banknote 💴 yo-yo 🪀",
   "yin_yang ☯ zany_face 🤪 zebra 🦓 zipper-mouth_face 🤐 zombie 🧟 zzz 💤 åland_islands 🇦🇽",
   "keycap_asterisk *\u20e3 keycap_digit_eight 8\u20e3 keycap_digit_five 5\u20e3",
   "keycap_digit_four 4\u20e3 keycap_digit_nine 9\u20e3 keycap_digit_one 1\u20e3",
   "keycap_digit_seven 7\u20e3 keycap_digit_six 6\u20e3 keycap_digit_three 3\u20e3",
   "keycap_digit_two 2\u20e3 keycap_digit_zero 0\u20e3 keycap_number_sign #\u20e3",
   "light_skin_tone 🏻 medium_light_skin_tone 🏼 medium_skin_tone 🏽 medium_dark_skin_tone 🏾",
   "dark_skin_tone 🏿 regional_indicator_symbol_letter_a 🇦 regional_indicator_symbol_letter_b 🇧",
   "regional_indicator_symbol_letter_c 🇨 regional_indicator_symbol_letter_d 🇩",
   "regional_indicator_symbol_letter_e 🇪 regional_indicator_symbol_letter_f 🇫",
   "regional_indicator_symbol_letter_g 🇬 regional_indicator_symbol_letter_h 🇭",
   "regional_indicator_symbol_letter_i 🇮 regional_indicator_symbol_letter_j 🇯",
   "regional_indicator_symbol_letter_k 🇰 regional_indicator_symbol_letter_l 🇱",
   "regional_indicator_symbol_letter_m 🇲 regional_indicator_symbol_letter_n 🇳",
   "regional_indicator_symbol_letter_o 🇴 regional_indicator_symbol_letter_p 🇵",
   "regional_indicator_symbol_letter_q 🇶 regional_indicator_symbol_letter_r 🇷",
   "regional_indicator_symbol_letter_s 🇸 regional_indicator_symbol_letter_t 🇹",
   "regional_indicator_symbol_letter_u 🇺 regional_indicator_symbol_letter_v 🇻",
   "regional_indicator_symbol_letter_w 🇼 regional_indicator_symbol_letter_x 🇽",
   "regional_indicator_symbol_letter_y 🇾 regional_indicator_symbol_letter_z 🇿 airplane_arriving 🛬",
   "space_invader 👾 football 🏈 anger 💢 angry 😠 anguished 😧 signal_strength 📶",
   "arrows_counterclockwise 🔄 arrow_heading_down ⤵ arrow_heading_up ⤴ art 🎨 astonished 😲",
   "athletic_shoe 👟 atm 🏧 car 🚗 red_car 🚗 angel 👼 back 🔙 badminton_racquet_and_shuttlecock 🏸",
   "dollar 💵 euro 💶 pound 💷 yen 💴 barber 💈 bath 🛀 bear 🐻 heartbeat 💓 beer 🍺 no_bell 🔕 bento 🍱",
   "bike 🚲 bicyclist 🚴 8ball 🎱 biohazard_sign ☣ birthday 🎂 black_circle_for_record ⏺ clubs ♣",
   "diamonds ♦ arrow_double_down ⏬ hearts ♥ rewind ⏪",
   "black_left__pointing_double_triangle_with_vertical_bar ⏮ arrow_backward ◀",
   "black_medium_small_square ◾ question ❓ fast_forward ⏩",
   "black_right__pointing_double_triangle_with_vertical_bar ⏭ arrow_forward ▶",
   "black_right__pointing_triangle_with_double_vertical_bar ⏯ arrow_right ➡ spades ♠",
   "black_square_for_stop ⏹ sunny ☀ phone ☎ recycle ♻ arrow_double_up ⏫ busstop 🚏 date 📅 flags 🎏",
   "cat2 🐈 joy_cat 😹 smirk_cat 😼 chart_with_downwards_trend 📉 chart_with_upwards_trend 📈 chart 💹",
   "mega 📣 checkered_flag 🏁 accept 🉑 ideograph_advantage 🉐 congratulations ㊗ secret ㊙ m Ⓜ",
   "city_sunset 🌆 clapper 🎬 clap 👏 beers 🍻 clock830 🕣 clock8 🕗 clock1130 🕦 clock11 🕚 clock530 🕠",
   "clock5 🕔 clock430 🕟 clock4 🕓 clock930 🕤 clock9 🕘 clock130 🕜 clock1 🕐 clock730 🕢 clock7 🕖",
   "clock630 🕡 clock6 🕕 clock1030 🕥 clock10 🕙 clock330 🕞 clock3 🕒 clock1230 🕧 clock12 🕛",
   "clock230 🕝 clock2 🕑 arrows_clockwise 🔃 repeat 🔁 repeat_one 🔂 closed_lock_with_key 🔐",
   "mailbox_closed 📪 mailbox 📫 cloud_with_tornado 🌪 cocktail 🍸 boom 💥 compression 🗜 confounded 😖",
   "confused 😕 rice 🍚 cow2 🐄 cricket_bat_and_ball 🏏 x ❌ cry 😢 curry 🍛 dagger_knife 🗡 dancer 💃",
   "dark_sunglasses 🕶 dash 💨 truck 🚚 derelict_house_building 🏚 diamond_shape_with_a_dot_inside 💠",
   "dart 🎯 disappointed_relieved 😥 disappointed 😞 do_not_litter 🚯 dog2 🐕 flipper 🐬 loop ➿",
   "bangbang ‼ double_vertical_bar ⏸ dove_of_peace 🕊 small_red_triangle_down 🔻 arrow_down_small 🔽",
   "arrow_down ⬇ dromedary_camel 🐪 e__mail 📧 corn 🌽 ear_of_rice 🌾 earth_americas 🌎 earth_asia 🌏",
   "earth_africa 🌍 eight_pointed_black_star ✴ eight_spoked_asterisk ✳ eject_symbol ⏏ bulb 💡",
   "emoji_modifier_fitzpatrick_type__1__2 🏻 emoji_modifier_fitzpatrick_type__3 🏼",
   "emoji_modifier_fitzpatrick_type__4 🏽 emoji_modifier_fitzpatrick_type__5 🏾",
   "emoji_modifier_fitzpatrick_type__6 🏿 end 🔚 email ✉ european_castle 🏰 european_post_office 🏤",
   "interrobang ⁉ expressionless 😑 eyeglasses 👓 massage 💆 yum 😋 scream 😱 kissing_heart 😘 sweat 😓",
   "face_with_head__bandage 🤕 triumph 😤 mask 😷 no_good 🙅 ok_woman 🙆 open_mouth 😮 cold_sweat 😰",
   "stuck_out_tongue 😛 stuck_out_tongue_closed_eyes 😝 stuck_out_tongue_winking_eye 😜 joy 😂",
   "no_mouth 😶 santa 🎅 fax 📠 fearful 😨 field_hockey_stick_and_ball 🏑",
   "first_quarter_moon_with_face 🌛 fish_cake 🍥 fishing_pole_and_fish 🎣 facepunch 👊 punch 👊",
   "flag_for_cocos__islands 🇨🇨 flag_for_congo____brazzaville 🇨🇬 flag_for_congo____kinshasa 🇨🇩",
   "flag_for_czech_republic 🇨🇿 flag_for_guinea__bissau 🇬🇼 flag_for_hong_kong 🇭🇰 flag_for_japan 🇯🇵",
   "flag_for_macau 🇲🇴 flag_for_myanmar 🇲🇲 flag_for_timor__leste 🇹🇱 flag_for_turkey 🇹🇷 golf ⛳",
   "fleur__de__lis ⚜ muscle 💪 flushed 😳 frame_with_picture 🖼 fries 🍟 frog 🐸 hatched_chick 🐥",
   "frowning 😦 fuelpump ⛽ full_moon_with_face 🌝 gem 💎 star2 🌟 golfer 🏌 mortar_board 🎓 grimacing 😬",
   "smile_cat 😸 grinning 😀 grin 😁 heartpulse 💗 guardsman 💂 haircut 💇 hamster 🐹 raising_hand 🙋",
   "headphones 🎧 hear_no_evil 🙉 cupid 💘 gift_heart 💝 heart ❤ exclamation ❗",
   "heavy_exclamation_mark ❗ heavy_heart_exclamation_mark_ornament ❣ o ⭕ helm_symbol ⎈",
   "helmet_with_white_cross ⛑ high_heel 👠 bullettrain_side 🚄 bullettrain_front 🚅",
   "high_brightness 🔆 zap ⚡ hocho 🔪 knife 🔪 bee 🐝 traffic_light 🚥 racehorse 🐎 coffee ☕",
   "hotsprings ♨ hourglass ⌛ hourglass_flowing_sand ⏳ house_buildings 🏘 100 💯 hushed 😯",
   "ice_hockey_stick_and_puck 🏒 imp 👿 information_desk_person 💁 information_source ℹ",
   "capital_abcd 🔠 abc 🔤 abcd 🔡 1234 🔢 symbols 🔣 izakaya_lantern 🏮 lantern 🏮 jack_o_lantern 🎃",
   "dolls 🎎 japanese_goblin 👺 japanese_ogre 👹 beginner 🔰 zero 0\ufe0f\u20e3 one 1\ufe0f\u20e3",
   "ten 🔟 two 2\ufe0f\u20e3 three 3\ufe0f\u20e3 four 4\ufe0f\u20e3 five 5\ufe0f\u20e3",
   "six 6\ufe0f\u20e3 seven 7\ufe0f\u20e3 eight 8\ufe0f\u20e3 nine 9\ufe0f\u20e3 couplekiss 💏",
   "kissing_cat 😽 kissing 😗 kissing_closed_eyes 😚 kissing_smiling_eyes 😙 beetle 🐞",
   "large_blue_circle 🔵 last_quarter_moon_with_face 🌜 leaves 🍃 mag 🔍 left_right_arrow ↔",
   "leftwards_arrow_with_hook ↩ arrow_left ⬅ lock 🔒 lock_with_ink_pen 🔏 sob 😭 low_brightness 🔅",
   "lower_left_ballpoint_pen 🖊 lower_left_crayon 🖍 lower_left_fountain_pen 🖋",
   "lower_left_paintbrush 🖌 mahjong 🀄 couple 👫 man_in_business_suit_levitating 🕴",
   "man_with_gua_pi_mao 👲 man_with_turban 👳 mans_shoe 👞 shoe 👞 menorah_with_nine_branches 🕎",
   "mens 🚹 minidisc 💽 iphone 📱 calling 📲 money__mouth_face 🤑 moneybag 💰 rice_scene 🎑",
   "mountain_bicyclist 🚵 mouse2 🐁 lips 👄 moyai 🗿 notes 🎶 nail_care 💅 ab 🆎",
   "negative_squared_cross_mark ❎ a 🅰 b 🅱 o2 🅾 parking 🅿 new_moon_with_face 🌚 no_entry_sign 🚫",
   "underage 🔞 non__potable_water 🚱 arrow_upper_right ↗ arrow_upper_left ↖ office 🏢 older_man 👴",
   "older_woman 👵 om_symbol 🕉 on 🔛 book 📖 unlock 🔓 mailbox_with_no_mail 📭 mailbox_with_mail 📬",
   "cd 💿 tada 🎉 feet 🐾 walking 🚶 pencil2 ✏ pensive 😔 persevere 😣 bow 🙇 raised_hands 🙌",
   "person_with_ball ⛹ person_with_blond_hair 👱 pray 🙏 person_with_pouting_face 🙎 computer 💻",
   "pig2 🐖 hankey 💩 poop 💩 shit 💩 bamboo 🎍 gun 🔫 black_joker 🃏 rotating_light 🚨 cop 👮 stew 🍲",
   "pouch 👝 pouting_cat 😾 rage 😡 put_litter_in_its_place 🚮 rabbit2 🐇 racing_motorcycle 🏍",
   "radioactive_sign ☢ fist ✊ hand ✋ raised_hand_with_fingers_splayed 🖐",
   "raised_hand_with_part_between_middle_and_ring_fingers 🖖 blue_car 🚙 apple 🍎 relieved 😌",
   "reversed_hand_with_middle_finger_extended 🖕 mag_right 🔎 arrow_right_hook ↪ sweet_potato 🍠",
   "robot 🤖 rolled__up_newspaper 🗞 rowboat 🚣 runner 🏃 running 🏃 running_shirt_with_sash 🎽 boat ⛵",
   "scales ⚖ school_satchel 🎒 scorpius ♏ see_no_evil 🙈 sheep 🐑 stars 🌠 cake 🍰 six_pointed_star 🔯",
   "ski 🎿 sleeping_accommodation 🛌 sleeping 😴 sleepy 😪 sleuth_or_spy 🕵 heart_eyes_cat 😻",
   "smiley_cat 😺 innocent 😇 heart_eyes 😍 smiling_imp 😈 smiley 😃 sweat_smile 😅 smile 😄 laughing 😆",
   "satisfied 😆 blush 😊 smirk 😏 smoking 🚬 snow_capped_mountain 🏔 soccer ⚽ icecream 🍦 soon 🔜",
   "arrow_lower_right ↘ arrow_lower_left ↙ speak_no_evil 🙊 speaker 🔈 mute 🔇 sound 🔉 loud_sound 🔊",
   "speaking_head_in_silhouette 🗣 spiral_calendar_pad 🗓 spiral_note_pad 🗒 shell 🐚 sweat_drops 💦",
   "u5272 🈹 u5408 🈴 u55b6 🈺 u6307 🈯 u6708 🈷 u6709 🈶 u6e80 🈵 u7121 🈚 u7533 🈸 u7981 🈲 u7a7a 🈳 cl 🆑",
   "cool 🆒 free 🆓 id 🆔 koko 🈁 sa 🈂 new 🆕 ng 🆖 ok 🆗 sos 🆘 up 🆙 vs 🆚 steam_locomotive 🚂 ramen 🍜",
   "partly_sunny ⛅ city_sunrise 🌇 surfer 🏄 swimmer 🏊 shirt 👕 tshirt 👕",
   "table_tennis_paddle_and_ball 🏓 tea 🍵 tv 📺 three_button_mouse 🖱 +1 👍 thumbsup 👍 __1 👎 -1 👎",
   "thumbsdown 👎 thunder_cloud_and_rain ⛈ tiger2 🐅 tophat 🎩 top 🔝 tm ™ train2 🚆",
   "triangular_flag_on_post 🚩 trident 🔱 twisted_rightwards_arrows 🔀 unamused 😒",
   "small_red_triangle 🔺 arrow_up_small 🔼 arrow_up_down ↕ upside__down_face 🙃 arrow_up ⬆ v ✌",
   "vhs 📼 wc 🚾 ocean 🌊 waving_black_flag 🏴 wave 👋 waving_white_flag 🏳 moon 🌔 scream_cat 🙀 weary 😩",
   "weight_lifter 🏋 whale2 🐋 wheelchair ♿ point_down 👇 grey_exclamation ❕ white_frowning_face ☹",
   "white_check_mark ✅ point_left 👈 white_medium_small_square ◽ star ⭐ grey_question ❔",
   "point_right 👉 relaxed ☺ white_sun_behind_cloud 🌥 white_sun_behind_cloud_with_rain 🌦",
   "white_sun_with_small_cloud 🌤 point_up_2 👆 point_up ☝ wind_blowing_face 🌬 wink 😉 wolf 🐺",
   "dancers 👯 boot 👢 womans_clothes 👚 womans_hat 👒 sandal 👡 womens 🚺 worried 😟 gift 🎁",
   "zipper__mouth_face 🤐 regional_indicator_a 🇦 regional_indicator_b 🇧 regional_indicator_c 🇨",
   "regional_indicator_d 🇩 regional_indicator_e 🇪 regional_indicator_f 🇫 regional_indicator_g 🇬",
   "regional_indicator_h 🇭 regional_indicator_i 🇮 regional_indicator_j 🇯 regional_indicator_k 🇰",
   "regional_indicator_l 🇱 regional_indicator_m 🇲 regional_indicator_n 🇳 regional_indicator_o 🇴",
   "regional_indicator_p 🇵 regional_indicator_q 🇶 regional_indicator_r 🇷 regional_indicator_s 🇸",
   "regional_indicator_t 🇹 regional_indicator_u 🇺 regional_indicator_v 🇻 regional_indicator_w 🇼",
   "regional_indicator_x 🇽 regional_indicator_y 🇾 regional_indicator_z 🇿"]

/-- The names of the pictures that have a tone of skin. -/
def toned : List String :=
  ["mrs._claus ok_hand santa_claus adult baby_angel baby backhand_index_pointing_down",
   "backhand_index_pointing_left backhand_index_pointing_right backhand_index_pointing_up",
   "bearded_person blond-haired_man blond-haired_person blond-haired_woman boy breast-feeding",
   "bride_with_veil call_me_hand child clapping_hands construction_worker crossed_fingers",
   "detective ear elf fairy flexed_biceps folded_hands girl guard hand_with_fingers_splayed",
   "horse_racing index_pointing_up left-facing_fist love-you_gesture mage man_artist",
   "man_astronaut man_biking man_bouncing_ball man_bowing man_cartwheeling man_climbing",
   "man_construction_worker man_cook man_dancing man man_detective man_elf man_facepalming",
   "man_factory_worker man_fairy man_farmer man_firefighter man_frowning man_gesturing_no",
   "man_gesturing_ok man_getting_haircut man_getting_massage man_golfing man_guard",
   "man_health_worker man_in_lotus_position man_in_steamy_room man_in_suit_levitating",
   "man_in_tuxedo man_judge man_juggling man_lifting_weights man_mage man_mechanic",
   "man_mountain_biking man_office_worker man_pilot man_playing_handball man_playing_water_polo",
   "man_police_officer man_pouting man_raising_hand man_rowing_boat man_running man_scientist",
   "man_shrugging man_singer man_student man_surfing man_swimming man_teacher man_technologist",
   "man_tipping_hand man_vampire man_walking man_wearing_turban man_with_chinese_cap mermaid",
   "merman merperson middle_finger nail_polish nose old_man old_woman older_adult oncoming_fist",
   "open_hands palms_up_together person_biking person_bouncing_ball person_bowing",
   "person_cartwheeling person_climbing person_facepalming person_frowning person_gesturing_no",
   "person_gesturing_ok person_getting_haircut person_getting_massage person_golfing",
   "person_in_bed person_in_lotus_position person_in_steamy_room person_juggling",
   "person_lifting_weights person_mountain_biking person_playing_handball",
   "person_playing_water_polo person_pouting person_raising_hand person_rowing_boat",
   "person_running person_shrugging person_surfing person_swimming person_taking_bath",
   "person_tipping_hand person_walking person_wearing_turban police_officer pregnant_woman prince",
   "princess raised_back_of_hand raised_fist raised_hand raising_hands right-facing_fist selfie",
   "sign_of_the_horns snowboarder thumbs_down thumbs_up vampire victory_hand vulcan_salute",
   "waving_hand woman_artist woman_astronaut woman_biking woman_bouncing_ball woman_bowing",
   "woman_cartwheeling woman_climbing woman_construction_worker woman_cook woman_dancing woman",
   "woman_detective woman_elf woman_facepalming woman_factory_worker woman_fairy woman_farmer",
   "woman_firefighter woman_frowning woman_gesturing_no woman_gesturing_ok woman_getting_haircut",
   "woman_getting_massage woman_golfing woman_guard woman_health_worker woman_in_lotus_position",
   "woman_in_steamy_room woman_judge woman_juggling woman_lifting_weights woman_mage",
   "woman_mechanic woman_mountain_biking woman_office_worker woman_pilot woman_playing_handball",
   "woman_playing_water_polo woman_police_officer woman_pouting woman_raising_hand",
   "woman_rowing_boat woman_running woman_scientist woman_shrugging woman_singer woman_student",
   "woman_surfing woman_swimming woman_teacher woman_technologist woman_tipping_hand",
   "woman_vampire woman_walking woman_wearing_turban woman_with_headscarf writing_hand"]

/-- The countries that only go by their own names. -/
def unflagged : List String :=
  ["cocos_(keeling)_islands congo_-_brazzaville congo_-_kinshasa czechia guinea-bissau",
   "hong_kong_sar_china macau_sar_china myanmar_(burma) timor-leste united_nations"]

def words (lines : List String) : List String := Text.pieces ' ' (" ".intercalate lines)

def inPairs : List String → List (String × String)
  | a :: b :: r => (a, b) :: inPairs r
  | _ => []

def table : List (String × String) := inPairs (words named)
def tonedNames : List String := words toned
def unflaggedNames : List String := words unflagged

def tones : List (String × Char) :=
  [("_medium-light_skin_tone", Char.ofNat 0x1F3FC), ("_light_skin_tone", Char.ofNat 0x1F3FB),
   ("_medium-dark_skin_tone", Char.ofNat 0x1F3FE), ("_dark_skin_tone", Char.ofNat 0x1F3FF),
   ("_medium_skin_tone", Char.ofNat 0x1F3FD)]

/-- The front of a text that ends in another. -/
def before? (s ending : String) : Option String :=
  if s.endsWith ending then some (String.ofList (s.toList.take (s.length - ending.length)))
  else none

def emojiSelector : Char := '\ufe0f'
def textSelector : Char := '\ufe0e'

/-- A picture in a tone of skin, which takes the place of a selector. -/
def inTone (tone : Char) : List Char → List Char
  | c :: d :: r => c :: tone :: (if d = emojiSelector then r else d :: r)
  | [c] => [c, tone]
  | [] => []

/-- Whether a picture is a flag: two letters that stand for a region. -/
def isFlag (picture : String) : Bool :=
  picture.length == 2 && picture.all fun c => 0x1F1E6 ≤ c.toNat && c.toNat ≤ 0x1F1FF

def flagRoot : String := "flag_for_"

/-- The picture of a name. -/
def find? (name : String) : Option (List Char) :=
  let inSkin := tones.findSome? fun (ending, tone) => do
    let base ← before? name ending
    guard (tonedNames.contains base)
    return inTone tone (← table.lookup base).toList
  let flag := do
    guard (name.startsWith flagRoot)
    let country := String.ofList (name.toList.drop flagRoot.length)
    guard (!unflaggedNames.contains country && !country.startsWith flagRoot)
    let picture ← table.lookup country
    guard (isFlag picture)
    return picture.toList
  ((table.lookup name).map (·.toList)).or (inSkin.or flag)

/-- What a word between colons stands for. It may ask for a form of its picture at its end. -/
def ofWord? (word : String) : Option (List Char) :=
  let picture := fun name => find? (Text.lower name)
  match before? word "-emoji", before? word "-text" with
  | some name, _ => (picture name).map (· ++ [emojiSelector])
  | none, some name => (picture name).map (· ++ [textSelector])
  | none, none => picture word

/-- A text with pictures in the place of their names. -/
def draw : Nat → List Char → List Char
  | 0, cs => cs
  | _, [] => []
  | fuel + 1, c :: r =>
    if c != ':' then c :: draw fuel r
    else
      let word := r.takeWhile fun c => c != ':' && !Text.isWhite c
      match r.drop word.length with
      | ':' :: after =>
        (ofWord? (String.ofList word)).getD (':' :: word ++ [':']) ++ draw fuel after
      | _ => ':' :: draw fuel r

end Subgraph.Console.Picture
