/-!
# Names of emoji

The names of the emoji that are neither flags nor the toned forms of others, each with the code points
of its characters. They are in the order of the names.
-/

namespace JsxTagger.Console.Emoji

/-- Names up to those that start with `b`. -/
def codesToB : List (String × List Nat) :=
  [("+1", [0x1f44d]), ("-1", [0x1f44e]), ("100", [0x1f4af]), ("1234", [0x1f522]),
   ("1st_place_medal", [0x1f947]), ("2nd_place_medal", [0x1f948]), ("3rd_place_medal", [0x1f949]),
   ("8ball", [0x1f3b1]), ("__1", [0x1f44e]), ("a", [0x1f170]),
   ("a_button_(blood_type)", [0x1f170]), ("ab", [0x1f18e]), ("ab_button_(blood_type)", [0x1f18e]),
   ("abacus", [0x1f9ee]), ("abc", [0x1f524]), ("abcd", [0x1f521]), ("accept", [0x1f251]),
   ("adhesive_bandage", [0x1fa79]), ("admission_tickets", [0x1f39f]), ("adult", [0x1f9d1]),
   ("aerial_tramway", [0x1f6a1]), ("airplane", [0x2708]), ("airplane_arrival", [0x1f6ec]),
   ("airplane_arriving", [0x1f6ec]), ("airplane_departure", [0x1f6eb]), ("alarm_clock", [0x23f0]),
   ("alembic", [0x2697]), ("alien", [0x1f47d]), ("alien_monster", [0x1f47e]),
   ("ambulance", [0x1f691]), ("american_football", [0x1f3c8]), ("amphora", [0x1f3fa]),
   ("anchor", [0x2693]), ("angel", [0x1f47c]), ("anger", [0x1f4a2]), ("anger_symbol", [0x1f4a2]),
   ("angry", [0x1f620]), ("angry_face", [0x1f620]), ("angry_face_with_horns", [0x1f47f]),
   ("anguished", [0x1f627]), ("anguished_face", [0x1f627]), ("ant", [0x1f41c]),
   ("antenna_bars", [0x1f4f6]), ("anxious_face_with_sweat", [0x1f630]), ("apple", [0x1f34e]),
   ("aquarius", [0x2652]), ("aries", [0x2648]), ("arrow_backward", [0x25c0]),
   ("arrow_double_down", [0x23ec]), ("arrow_double_up", [0x23eb]), ("arrow_down", [0x2b07]),
   ("arrow_down_small", [0x1f53d]), ("arrow_forward", [0x25b6]), ("arrow_heading_down", [0x2935]),
   ("arrow_heading_up", [0x2934]), ("arrow_left", [0x2b05]), ("arrow_lower_left", [0x2199]),
   ("arrow_lower_right", [0x2198]), ("arrow_right", [0x27a1]), ("arrow_right_hook", [0x21aa]),
   ("arrow_up", [0x2b06]), ("arrow_up_down", [0x2195]), ("arrow_up_small", [0x1f53c]),
   ("arrow_upper_left", [0x2196]), ("arrow_upper_right", [0x2197]),
   ("arrows_clockwise", [0x1f503]), ("arrows_counterclockwise", [0x1f504]), ("art", [0x1f3a8]),
   ("articulated_lorry", [0x1f69b]), ("artist_palette", [0x1f3a8]), ("astonished", [0x1f632]),
   ("astonished_face", [0x1f632]), ("athletic_shoe", [0x1f45f]), ("atm", [0x1f3e7]),
   ("atm_sign", [0x1f3e7]), ("atom_symbol", [0x269b]), ("auto_rickshaw", [0x1f6fa]),
   ("automobile", [0x1f697]), ("avocado", [0x1f951]), ("axe", [0x1fa93]), ("b", [0x1f171]),
   ("b_button_(blood_type)", [0x1f171]), ("baby", [0x1f476]), ("baby_angel", [0x1f47c]),
   ("baby_bottle", [0x1f37c]), ("baby_chick", [0x1f424]), ("baby_symbol", [0x1f6bc]),
   ("back", [0x1f519]), ("back_arrow", [0x1f519]), ("backhand_index_pointing_down", [0x1f447]),
   ("backhand_index_pointing_left", [0x1f448]), ("backhand_index_pointing_right", [0x1f449]),
   ("backhand_index_pointing_up", [0x1f446]), ("bacon", [0x1f953]), ("badger", [0x1f9a1]),
   ("badminton", [0x1f3f8]), ("badminton_racquet_and_shuttlecock", [0x1f3f8]),
   ("bagel", [0x1f96f]), ("baggage_claim", [0x1f6c4]), ("baguette_bread", [0x1f956]),
   ("balance_scale", [0x2696]), ("bald", [0x1f9b2]), ("bald_man", [0x1f468, 0x200d, 0x1f9b2]),
   ("bald_woman", [0x1f469, 0x200d, 0x1f9b2]), ("ballet_shoes", [0x1fa70]), ("balloon", [0x1f388]),
   ("ballot_box_with_ballot", [0x1f5f3]), ("ballot_box_with_check", [0x2611]),
   ("bamboo", [0x1f38d]), ("banana", [0x1f34c]), ("bangbang", [0x203c]), ("banjo", [0x1fa95]),
   ("bank", [0x1f3e6]), ("bar_chart", [0x1f4ca]), ("barber", [0x1f488]),
   ("barber_pole", [0x1f488]), ("baseball", [0x26be]), ("basket", [0x1f9fa]),
   ("basketball", [0x1f3c0]), ("bat", [0x1f987]), ("bath", [0x1f6c0]), ("bathtub", [0x1f6c1]),
   ("battery", [0x1f50b]), ("beach_with_umbrella", [0x1f3d6]),
   ("beaming_face_with_smiling_eyes", [0x1f601]), ("bear", [0x1f43b]), ("bear_face", [0x1f43b]),
   ("bearded_person", [0x1f9d4]), ("beating_heart", [0x1f493]), ("bed", [0x1f6cf]),
   ("bee", [0x1f41d]), ("beer", [0x1f37a]), ("beer_mug", [0x1f37a]), ("beers", [0x1f37b]),
   ("beetle", [0x1f41e]), ("beginner", [0x1f530]), ("bell", [0x1f514]),
   ("bell_with_slash", [0x1f515]), ("bellhop_bell", [0x1f6ce]), ("bento", [0x1f371]),
   ("bento_box", [0x1f371]), ("beverage_box", [0x1f9c3]), ("bicycle", [0x1f6b2]),
   ("bicyclist", [0x1f6b4]), ("bike", [0x1f6b2]), ("bikini", [0x1f459]), ("billed_cap", [0x1f9e2]),
   ("biohazard", [0x2623]), ("biohazard_sign", [0x2623]), ("bird", [0x1f426]),
   ("birthday", [0x1f382]), ("birthday_cake", [0x1f382]), ("black_circle", [0x26ab]),
   ("black_circle_for_record", [0x23fa]), ("black_flag", [0x1f3f4]), ("black_heart", [0x1f5a4]),
   ("black_joker", [0x1f0cf]), ("black_large_square", [0x2b1b]),
   ("black_left__pointing_double_triangle_with_vertical_bar", [0x23ee]),
   ("black_medium-small_square", [0x25fe]), ("black_medium_small_square", [0x25fe]),
   ("black_medium_square", [0x25fc]), ("black_nib", [0x2712]),
   ("black_right__pointing_double_triangle_with_vertical_bar", [0x23ed]),
   ("black_right__pointing_triangle_with_double_vertical_bar", [0x23ef]),
   ("black_small_square", [0x25aa]), ("black_square_button", [0x1f532]),
   ("black_square_for_stop", [0x23f9]), ("blond-haired_man", [0x1f471, 0x200d, 0x2642, 0xfe0f]),
   ("blond-haired_person", [0x1f471]), ("blond-haired_woman", [0x1f471, 0x200d, 0x2640, 0xfe0f]),
   ("blossom", [0x1f33c]), ("blowfish", [0x1f421]), ("blue_book", [0x1f4d8]),
   ("blue_car", [0x1f699]), ("blue_circle", [0x1f535]), ("blue_heart", [0x1f499]),
   ("blue_square", [0x1f7e6]), ("blush", [0x1f60a]), ("boar", [0x1f417]), ("boat", [0x26f5]),
   ("bomb", [0x1f4a3]), ("bone", [0x1f9b4]), ("book", [0x1f4d6]), ("bookmark", [0x1f516]),
   ("bookmark_tabs", [0x1f4d1]), ("books", [0x1f4da]), ("boom", [0x1f4a5]), ("boot", [0x1f462]),
   ("bottle_with_popping_cork", [0x1f37e]), ("bouquet", [0x1f490]), ("bow", [0x1f647]),
   ("bow_and_arrow", [0x1f3f9]), ("bowl_with_spoon", [0x1f963]), ("bowling", [0x1f3b3]),
   ("boxing_glove", [0x1f94a]), ("boy", [0x1f466]), ("brain", [0x1f9e0]), ("bread", [0x1f35e]),
   ("breast-feeding", [0x1f931]), ("brick", [0x1f9f1]), ("bride_with_veil", [0x1f470]),
   ("bridge_at_night", [0x1f309]), ("briefcase", [0x1f4bc]), ("briefs", [0x1fa72]),
   ("bright_button", [0x1f506]), ("broccoli", [0x1f966]), ("broken_heart", [0x1f494]),
   ("broom", [0x1f9f9]), ("brown_circle", [0x1f7e4]), ("brown_heart", [0x1f90e]),
   ("brown_square", [0x1f7eb]), ("bug", [0x1f41b]), ("building_construction", [0x1f3d7]),
   ("bulb", [0x1f4a1]), ("bullet_train", [0x1f685]), ("bullettrain_front", [0x1f685]),
   ("bullettrain_side", [0x1f684]), ("burrito", [0x1f32f]), ("bus", [0x1f68c]),
   ("bus_stop", [0x1f68f]), ("busstop", [0x1f68f]), ("bust_in_silhouette", [0x1f464]),
   ("busts_in_silhouette", [0x1f465]), ("butter", [0x1f9c8]), ("butterfly", [0x1f98b])]

/-- Names that start with `c` to `e`. -/
def codesCToE : List (String × List Nat) :=
  [("cactus", [0x1f335]), ("cake", [0x1f370]), ("calendar", [0x1f4c6]),
   ("call_me_hand", [0x1f919]), ("calling", [0x1f4f2]), ("camel", [0x1f42b]),
   ("camera", [0x1f4f7]), ("camera_with_flash", [0x1f4f8]), ("camping", [0x1f3d5]),
   ("cancer", [0x264b]), ("candle", [0x1f56f]), ("candy", [0x1f36c]), ("canned_food", [0x1f96b]),
   ("canoe", [0x1f6f6]), ("capital_abcd", [0x1f520]), ("capricorn", [0x2651]), ("car", [0x1f697]),
   ("card_file_box", [0x1f5c3]), ("card_index", [0x1f4c7]), ("card_index_dividers", [0x1f5c2]),
   ("carousel_horse", [0x1f3a0]), ("carp_streamer", [0x1f38f]), ("carrot", [0x1f955]),
   ("castle", [0x1f3f0]), ("cat", [0x1f431]), ("cat2", [0x1f408]), ("cat_face", [0x1f431]),
   ("cat_face_with_tears_of_joy", [0x1f639]), ("cat_face_with_wry_smile", [0x1f63c]),
   ("cd", [0x1f4bf]), ("chains", [0x26d3]), ("chair", [0x1fa91]), ("chart", [0x1f4b9]),
   ("chart_decreasing", [0x1f4c9]), ("chart_increasing", [0x1f4c8]),
   ("chart_increasing_with_yen", [0x1f4b9]), ("chart_with_downwards_trend", [0x1f4c9]),
   ("chart_with_upwards_trend", [0x1f4c8]), ("checkered_flag", [0x1f3c1]),
   ("cheese_wedge", [0x1f9c0]), ("chequered_flag", [0x1f3c1]), ("cherries", [0x1f352]),
   ("cherry_blossom", [0x1f338]), ("chess_pawn", [0x265f]), ("chestnut", [0x1f330]),
   ("chicken", [0x1f414]), ("child", [0x1f9d2]), ("children_crossing", [0x1f6b8]),
   ("chipmunk", [0x1f43f]), ("chocolate_bar", [0x1f36b]), ("chopsticks", [0x1f962]),
   ("christmas_tree", [0x1f384]), ("church", [0x26ea]), ("cigarette", [0x1f6ac]),
   ("cinema", [0x1f3a6]), ("circled_m", [0x24c2]), ("circus_tent", [0x1f3aa]),
   ("city_sunrise", [0x1f307]), ("city_sunset", [0x1f306]), ("cityscape", [0x1f3d9]),
   ("cityscape_at_dusk", [0x1f306]), ("cl", [0x1f191]), ("cl_button", [0x1f191]),
   ("clamp", [0x1f5dc]), ("clap", [0x1f44f]), ("clapper", [0x1f3ac]), ("clapper_board", [0x1f3ac]),
   ("clapping_hands", [0x1f44f]), ("classical_building", [0x1f3db]),
   ("clinking_beer_mugs", [0x1f37b]), ("clinking_glasses", [0x1f942]), ("clipboard", [0x1f4cb]),
   ("clock1", [0x1f550]), ("clock10", [0x1f559]), ("clock1030", [0x1f565]), ("clock11", [0x1f55a]),
   ("clock1130", [0x1f566]), ("clock12", [0x1f55b]), ("clock1230", [0x1f567]),
   ("clock130", [0x1f55c]), ("clock2", [0x1f551]), ("clock230", [0x1f55d]), ("clock3", [0x1f552]),
   ("clock330", [0x1f55e]), ("clock4", [0x1f553]), ("clock430", [0x1f55f]), ("clock5", [0x1f554]),
   ("clock530", [0x1f560]), ("clock6", [0x1f555]), ("clock630", [0x1f561]), ("clock7", [0x1f556]),
   ("clock730", [0x1f562]), ("clock8", [0x1f557]), ("clock830", [0x1f563]), ("clock9", [0x1f558]),
   ("clock930", [0x1f564]), ("clockwise_vertical_arrows", [0x1f503]), ("closed_book", [0x1f4d5]),
   ("closed_lock_with_key", [0x1f510]), ("closed_mailbox_with_lowered_flag", [0x1f4ea]),
   ("closed_mailbox_with_raised_flag", [0x1f4eb]), ("closed_umbrella", [0x1f302]),
   ("cloud", [0x2601]), ("cloud_with_lightning", [0x1f329]),
   ("cloud_with_lightning_and_rain", [0x26c8]), ("cloud_with_rain", [0x1f327]),
   ("cloud_with_snow", [0x1f328]), ("cloud_with_tornado", [0x1f32a]), ("clown_face", [0x1f921]),
   ("club_suit", [0x2663]), ("clubs", [0x2663]), ("clutch_bag", [0x1f45d]), ("coat", [0x1f9e5]),
   ("cocktail", [0x1f378]), ("cocktail_glass", [0x1f378]), ("coconut", [0x1f965]),
   ("coffee", [0x2615]), ("coffin", [0x26b0]), ("cold_face", [0x1f976]), ("cold_sweat", [0x1f630]),
   ("collision", [0x1f4a5]), ("comet", [0x2604]), ("compass", [0x1f9ed]),
   ("compression", [0x1f5dc]), ("computer", [0x1f4bb]), ("computer_disk", [0x1f4bd]),
   ("computer_mouse", [0x1f5b1]), ("confetti_ball", [0x1f38a]), ("confounded", [0x1f616]),
   ("confounded_face", [0x1f616]), ("confused", [0x1f615]), ("confused_face", [0x1f615]),
   ("congratulations", [0x3297]), ("construction", [0x1f6a7]), ("construction_worker", [0x1f477]),
   ("control_knobs", [0x1f39b]), ("convenience_store", [0x1f3ea]), ("cooked_rice", [0x1f35a]),
   ("cookie", [0x1f36a]), ("cooking", [0x1f373]), ("cool", [0x1f192]), ("cool_button", [0x1f192]),
   ("cop", [0x1f46e]), ("copyright", [0xa9]), ("corn", [0x1f33d]), ("couch_and_lamp", [0x1f6cb]),
   ("counterclockwise_arrows_button", [0x1f504]), ("couple", [0x1f46b]),
   ("couple_with_heart", [0x1f491]),
   ("couple_with_heart_man_man", [0x1f468, 0x200d, 0x2764, 0xfe0f, 0x200d, 0x1f468]),
   ("couple_with_heart_woman_man", [0x1f469, 0x200d, 0x2764, 0xfe0f, 0x200d, 0x1f468]),
   ("couple_with_heart_woman_woman", [0x1f469, 0x200d, 0x2764, 0xfe0f, 0x200d, 0x1f469]),
   ("couplekiss", [0x1f48f]), ("cow", [0x1f42e]), ("cow2", [0x1f404]), ("cow_face", [0x1f42e]),
   ("cowboy_hat_face", [0x1f920]), ("crab", [0x1f980]), ("crayon", [0x1f58d]),
   ("credit_card", [0x1f4b3]), ("crescent_moon", [0x1f319]), ("cricket", [0x1f997]),
   ("cricket_bat_and_ball", [0x1f3cf]), ("cricket_game", [0x1f3cf]), ("crocodile", [0x1f40a]),
   ("croissant", [0x1f950]), ("cross_mark", [0x274c]), ("cross_mark_button", [0x274e]),
   ("crossed_fingers", [0x1f91e]), ("crossed_flags", [0x1f38c]), ("crossed_swords", [0x2694]),
   ("crown", [0x1f451]), ("cry", [0x1f622]), ("crying_cat_face", [0x1f63f]),
   ("crying_face", [0x1f622]), ("crystal_ball", [0x1f52e]), ("cucumber", [0x1f952]),
   ("cup_with_straw", [0x1f964]), ("cupcake", [0x1f9c1]), ("cupid", [0x1f498]),
   ("curling_stone", [0x1f94c]), ("curly-haired_man", [0x1f468, 0x200d, 0x1f9b1]),
   ("curly-haired_woman", [0x1f469, 0x200d, 0x1f9b1]), ("curly_hair", [0x1f9b1]),
   ("curly_loop", [0x27b0]), ("currency_exchange", [0x1f4b1]), ("curry", [0x1f35b]),
   ("curry_rice", [0x1f35b]), ("custard", [0x1f36e]), ("customs", [0x1f6c3]),
   ("cut_of_meat", [0x1f969]), ("cyclone", [0x1f300]), ("dagger", [0x1f5e1]),
   ("dagger_knife", [0x1f5e1]), ("dancer", [0x1f483]), ("dancers", [0x1f46f]),
   ("dango", [0x1f361]), ("dark_skin_tone", [0x1f3ff]), ("dark_sunglasses", [0x1f576]),
   ("dart", [0x1f3af]), ("dash", [0x1f4a8]), ("dashing_away", [0x1f4a8]), ("date", [0x1f4c5]),
   ("deaf_person", [0x1f9cf]), ("deciduous_tree", [0x1f333]), ("deer", [0x1f98c]),
   ("delivery_truck", [0x1f69a]), ("department_store", [0x1f3ec]), ("derelict_house", [0x1f3da]),
   ("derelict_house_building", [0x1f3da]), ("desert", [0x1f3dc]), ("desert_island", [0x1f3dd]),
   ("desktop_computer", [0x1f5a5]), ("detective", [0x1f575]),
   ("diamond_shape_with_a_dot_inside", [0x1f4a0]), ("diamond_suit", [0x2666]),
   ("diamond_with_a_dot", [0x1f4a0]), ("diamonds", [0x2666]), ("dim_button", [0x1f505]),
   ("direct_hit", [0x1f3af]), ("disappointed", [0x1f61e]), ("disappointed_face", [0x1f61e]),
   ("disappointed_relieved", [0x1f625]), ("diving_mask", [0x1f93f]), ("diya_lamp", [0x1fa94]),
   ("dizzy", [0x1f4ab]), ("dizzy_face", [0x1f635]), ("dna", [0x1f9ec]),
   ("do_not_litter", [0x1f6af]), ("dog", [0x1f436]), ("dog2", [0x1f415]), ("dog_face", [0x1f436]),
   ("dollar", [0x1f4b5]), ("dollar_banknote", [0x1f4b5]), ("dolls", [0x1f38e]),
   ("dolphin", [0x1f42c]), ("door", [0x1f6aa]), ("dotted_six-pointed_star", [0x1f52f]),
   ("double_curly_loop", [0x27bf]), ("double_exclamation_mark", [0x203c]),
   ("double_vertical_bar", [0x23f8]), ("doughnut", [0x1f369]), ("dove", [0x1f54a]),
   ("dove_of_peace", [0x1f54a]), ("down-left_arrow", [0x2199]), ("down-right_arrow", [0x2198]),
   ("down_arrow", [0x2b07]), ("downcast_face_with_sweat", [0x1f613]),
   ("downwards_button", [0x1f53d]), ("dragon", [0x1f409]), ("dragon_face", [0x1f432]),
   ("dress", [0x1f457]), ("dromedary_camel", [0x1f42a]), ("drooling_face", [0x1f924]),
   ("drop_of_blood", [0x1fa78]), ("droplet", [0x1f4a7]), ("drum", [0x1f941]), ("duck", [0x1f986]),
   ("dumpling", [0x1f95f]), ("dvd", [0x1f4c0]), ("e-mail", [0x1f4e7]), ("e__mail", [0x1f4e7]),
   ("eagle", [0x1f985]), ("ear", [0x1f442]), ("ear_of_corn", [0x1f33d]),
   ("ear_of_rice", [0x1f33e]), ("ear_with_hearing_aid", [0x1f9bb]), ("earth_africa", [0x1f30d]),
   ("earth_americas", [0x1f30e]), ("earth_asia", [0x1f30f]), ("egg", [0x1f373]),
   ("eggplant", [0x1f346]), ("eight", [0x38, 0xfe0f, 0x20e3]), ("eight-pointed_star", [0x2734]),
   ("eight-spoked_asterisk", [0x2733]), ("eight-thirty", [0x1f563]), ("eight_o’clock", [0x1f557]),
   ("eight_pointed_black_star", [0x2734]), ("eight_spoked_asterisk", [0x2733]),
   ("eject_button", [0x23cf]), ("eject_symbol", [0x23cf]), ("electric_plug", [0x1f50c]),
   ("elephant", [0x1f418]), ("eleven-thirty", [0x1f566]), ("eleven_o’clock", [0x1f55a]),
   ("elf", [0x1f9dd]), ("email", [0x2709]), ("emoji_modifier_fitzpatrick_type__1__2", [0x1f3fb]),
   ("emoji_modifier_fitzpatrick_type__3", [0x1f3fc]),
   ("emoji_modifier_fitzpatrick_type__4", [0x1f3fd]),
   ("emoji_modifier_fitzpatrick_type__5", [0x1f3fe]),
   ("emoji_modifier_fitzpatrick_type__6", [0x1f3ff]), ("end", [0x1f51a]), ("end_arrow", [0x1f51a]),
   ("england", [0x1f3f4, 0xe0067, 0xe0062, 0xe0065, 0xe006e, 0xe0067, 0xe007f]),
   ("envelope", [0x2709]), ("envelope_with_arrow", [0x1f4e9]), ("euro", [0x1f4b6]),
   ("euro_banknote", [0x1f4b6]), ("european_castle", [0x1f3f0]),
   ("european_post_office", [0x1f3e4]), ("evergreen_tree", [0x1f332]), ("ewe", [0x1f411]),
   ("exclamation", [0x2757]), ("exclamation_mark", [0x2757]),
   ("exclamation_question_mark", [0x2049]), ("exploding_head", [0x1f92f]),
   ("expressionless", [0x1f611]), ("expressionless_face", [0x1f611]), ("eye", [0x1f441]),
   ("eye_in_speech_bubble", [0x1f441, 0xfe0f, 0x200d, 0x1f5e8, 0xfe0f]), ("eyeglasses", [0x1f453]),
   ("eyes", [0x1f440])]

/-- Names that start with `f` to `i`. -/
def codesFToI : List (String × List Nat) :=
  [("face_blowing_a_kiss", [0x1f618]), ("face_savoring_food", [0x1f60b]),
   ("face_screaming_in_fear", [0x1f631]), ("face_vomiting", [0x1f92e]),
   ("face_with_hand_over_mouth", [0x1f92d]), ("face_with_head-bandage", [0x1f915]),
   ("face_with_head__bandage", [0x1f915]), ("face_with_medical_mask", [0x1f637]),
   ("face_with_monocle", [0x1f9d0]), ("face_with_open_mouth", [0x1f62e]),
   ("face_with_raised_eyebrow", [0x1f928]), ("face_with_rolling_eyes", [0x1f644]),
   ("face_with_steam_from_nose", [0x1f624]), ("face_with_symbols_on_mouth", [0x1f92c]),
   ("face_with_tears_of_joy", [0x1f602]), ("face_with_thermometer", [0x1f912]),
   ("face_with_tongue", [0x1f61b]), ("face_without_mouth", [0x1f636]), ("facepunch", [0x1f44a]),
   ("factory", [0x1f3ed]), ("fairy", [0x1f9da]), ("falafel", [0x1f9c6]),
   ("fallen_leaf", [0x1f342]), ("family", [0x1f46a]),
   ("family_man_boy", [0x1f468, 0x200d, 0x1f466]),
   ("family_man_boy_boy", [0x1f468, 0x200d, 0x1f466, 0x200d, 0x1f466]),
   ("family_man_girl", [0x1f468, 0x200d, 0x1f467]),
   ("family_man_girl_boy", [0x1f468, 0x200d, 0x1f467, 0x200d, 0x1f466]),
   ("family_man_girl_girl", [0x1f468, 0x200d, 0x1f467, 0x200d, 0x1f467]),
   ("family_man_man_boy", [0x1f468, 0x200d, 0x1f468, 0x200d, 0x1f466]),
   ("family_man_man_boy_boy", [0x1f468, 0x200d, 0x1f468, 0x200d, 0x1f466, 0x200d, 0x1f466]),
   ("family_man_man_girl", [0x1f468, 0x200d, 0x1f468, 0x200d, 0x1f467]),
   ("family_man_man_girl_boy", [0x1f468, 0x200d, 0x1f468, 0x200d, 0x1f467, 0x200d, 0x1f466]),
   ("family_man_man_girl_girl", [0x1f468, 0x200d, 0x1f468, 0x200d, 0x1f467, 0x200d, 0x1f467]),
   ("family_man_woman_boy", [0x1f468, 0x200d, 0x1f469, 0x200d, 0x1f466]),
   ("family_man_woman_boy_boy", [0x1f468, 0x200d, 0x1f469, 0x200d, 0x1f466, 0x200d, 0x1f466]),
   ("family_man_woman_girl", [0x1f468, 0x200d, 0x1f469, 0x200d, 0x1f467]),
   ("family_man_woman_girl_boy", [0x1f468, 0x200d, 0x1f469, 0x200d, 0x1f467, 0x200d, 0x1f466]),
   ("family_man_woman_girl_girl", [0x1f468, 0x200d, 0x1f469, 0x200d, 0x1f467, 0x200d, 0x1f467]),
   ("family_woman_boy", [0x1f469, 0x200d, 0x1f466]),
   ("family_woman_boy_boy", [0x1f469, 0x200d, 0x1f466, 0x200d, 0x1f466]),
   ("family_woman_girl", [0x1f469, 0x200d, 0x1f467]),
   ("family_woman_girl_boy", [0x1f469, 0x200d, 0x1f467, 0x200d, 0x1f466]),
   ("family_woman_girl_girl", [0x1f469, 0x200d, 0x1f467, 0x200d, 0x1f467]),
   ("family_woman_woman_boy", [0x1f469, 0x200d, 0x1f469, 0x200d, 0x1f466]),
   ("family_woman_woman_boy_boy", [0x1f469, 0x200d, 0x1f469, 0x200d, 0x1f466, 0x200d, 0x1f466]),
   ("family_woman_woman_girl", [0x1f469, 0x200d, 0x1f469, 0x200d, 0x1f467]),
   ("family_woman_woman_girl_boy", [0x1f469, 0x200d, 0x1f469, 0x200d, 0x1f467, 0x200d, 0x1f466]),
   ("family_woman_woman_girl_girl", [0x1f469, 0x200d, 0x1f469, 0x200d, 0x1f467, 0x200d, 0x1f467]),
   ("fast-forward_button", [0x23e9]), ("fast_down_button", [0x23ec]), ("fast_forward", [0x23e9]),
   ("fast_reverse_button", [0x23ea]), ("fast_up_button", [0x23eb]), ("fax", [0x1f4e0]),
   ("fax_machine", [0x1f4e0]), ("fearful", [0x1f628]), ("fearful_face", [0x1f628]),
   ("feet", [0x1f43e]), ("female_sign", [0x2640]), ("ferris_wheel", [0x1f3a1]),
   ("ferry", [0x26f4]), ("field_hockey", [0x1f3d1]), ("field_hockey_stick_and_ball", [0x1f3d1]),
   ("file_cabinet", [0x1f5c4]), ("file_folder", [0x1f4c1]), ("film_frames", [0x1f39e]),
   ("film_projector", [0x1f4fd]), ("fire", [0x1f525]), ("fire_engine", [0x1f692]),
   ("fire_extinguisher", [0x1f9ef]), ("firecracker", [0x1f9e8]), ("fireworks", [0x1f386]),
   ("first_quarter_moon", [0x1f313]), ("first_quarter_moon_face", [0x1f31b]),
   ("first_quarter_moon_with_face", [0x1f31b]), ("fish", [0x1f41f]), ("fish_cake", [0x1f365]),
   ("fish_cake_with_swirl", [0x1f365]), ("fishing_pole", [0x1f3a3]),
   ("fishing_pole_and_fish", [0x1f3a3]), ("fist", [0x270a]), ("five", [0x35, 0xfe0f, 0x20e3]),
   ("five-thirty", [0x1f560]), ("five_o’clock", [0x1f554]), ("flag_in_hole", [0x26f3]),
   ("flags", [0x1f38f]), ("flamingo", [0x1f9a9]), ("flashlight", [0x1f526]),
   ("flat_shoe", [0x1f97f]), ("fleur-de-lis", [0x269c]), ("fleur__de__lis", [0x269c]),
   ("flexed_biceps", [0x1f4aa]), ("flipper", [0x1f42c]), ("floppy_disk", [0x1f4be]),
   ("flower_playing_cards", [0x1f3b4]), ("flushed", [0x1f633]), ("flushed_face", [0x1f633]),
   ("flying_disc", [0x1f94f]), ("flying_saucer", [0x1f6f8]), ("fog", [0x1f32b]),
   ("foggy", [0x1f301]), ("folded_hands", [0x1f64f]), ("foot", [0x1f9b6]), ("football", [0x1f3c8]),
   ("footprints", [0x1f463]), ("fork_and_knife", [0x1f374]),
   ("fork_and_knife_with_plate", [0x1f37d]), ("fortune_cookie", [0x1f960]), ("fountain", [0x26f2]),
   ("fountain_pen", [0x1f58b]), ("four", [0x34, 0xfe0f, 0x20e3]), ("four-thirty", [0x1f55f]),
   ("four_leaf_clover", [0x1f340]), ("four_o’clock", [0x1f553]), ("fox_face", [0x1f98a]),
   ("frame_with_picture", [0x1f5bc]), ("framed_picture", [0x1f5bc]), ("free", [0x1f193]),
   ("free_button", [0x1f193]), ("french_fries", [0x1f35f]), ("fried_shrimp", [0x1f364]),
   ("fries", [0x1f35f]), ("frog", [0x1f438]), ("frog_face", [0x1f438]),
   ("front-facing_baby_chick", [0x1f425]), ("frowning", [0x1f626]), ("frowning_face", [0x2639]),
   ("frowning_face_with_open_mouth", [0x1f626]), ("fuel_pump", [0x26fd]), ("fuelpump", [0x26fd]),
   ("full_moon", [0x1f315]), ("full_moon_face", [0x1f31d]), ("full_moon_with_face", [0x1f31d]),
   ("funeral_urn", [0x26b1]), ("game_die", [0x1f3b2]), ("garlic", [0x1f9c4]), ("gear", [0x2699]),
   ("gem", [0x1f48e]), ("gem_stone", [0x1f48e]), ("gemini", [0x264a]), ("genie", [0x1f9de]),
   ("ghost", [0x1f47b]), ("gift", [0x1f381]), ("gift_heart", [0x1f49d]), ("giraffe", [0x1f992]),
   ("girl", [0x1f467]), ("glass_of_milk", [0x1f95b]), ("glasses", [0x1f453]),
   ("globe_showing_americas", [0x1f30e]), ("globe_showing_asia-australia", [0x1f30f]),
   ("globe_showing_europe-africa", [0x1f30d]), ("globe_with_meridians", [0x1f310]),
   ("gloves", [0x1f9e4]), ("glowing_star", [0x1f31f]), ("goal_net", [0x1f945]),
   ("goat", [0x1f410]), ("goblin", [0x1f47a]), ("goggles", [0x1f97d]), ("golf", [0x26f3]),
   ("golfer", [0x1f3cc]), ("gorilla", [0x1f98d]), ("graduation_cap", [0x1f393]),
   ("grapes", [0x1f347]), ("green_apple", [0x1f34f]), ("green_book", [0x1f4d7]),
   ("green_circle", [0x1f7e2]), ("green_heart", [0x1f49a]), ("green_salad", [0x1f957]),
   ("green_square", [0x1f7e9]), ("grey_exclamation", [0x2755]), ("grey_question", [0x2754]),
   ("grimacing", [0x1f62c]), ("grimacing_face", [0x1f62c]), ("grin", [0x1f601]),
   ("grinning", [0x1f600]), ("grinning_cat_face", [0x1f63a]),
   ("grinning_cat_face_with_smiling_eyes", [0x1f638]), ("grinning_face", [0x1f600]),
   ("grinning_face_with_big_eyes", [0x1f603]), ("grinning_face_with_smiling_eyes", [0x1f604]),
   ("grinning_face_with_sweat", [0x1f605]), ("grinning_squinting_face", [0x1f606]),
   ("growing_heart", [0x1f497]), ("guard", [0x1f482]), ("guardsman", [0x1f482]),
   ("guide_dog", [0x1f9ae]), ("guitar", [0x1f3b8]), ("gun", [0x1f52b]), ("haircut", [0x1f487]),
   ("hamburger", [0x1f354]), ("hammer", [0x1f528]), ("hammer_and_pick", [0x2692]),
   ("hammer_and_wrench", [0x1f6e0]), ("hamster", [0x1f439]), ("hamster_face", [0x1f439]),
   ("hand", [0x270b]), ("hand_with_fingers_splayed", [0x1f590]), ("handbag", [0x1f45c]),
   ("handshake", [0x1f91d]), ("hankey", [0x1f4a9]), ("hatched_chick", [0x1f425]),
   ("hatching_chick", [0x1f423]), ("headphone", [0x1f3a7]), ("headphones", [0x1f3a7]),
   ("hear-no-evil_monkey", [0x1f649]), ("hear_no_evil", [0x1f649]), ("heart", [0x2764]),
   ("heart_decoration", [0x1f49f]), ("heart_eyes", [0x1f60d]), ("heart_eyes_cat", [0x1f63b]),
   ("heart_suit", [0x2665]), ("heart_with_arrow", [0x1f498]), ("heart_with_ribbon", [0x1f49d]),
   ("heartbeat", [0x1f493]), ("heartpulse", [0x1f497]), ("hearts", [0x2665]),
   ("heavy_check_mark", [0x2714]), ("heavy_division_sign", [0x2797]),
   ("heavy_dollar_sign", [0x1f4b2]), ("heavy_exclamation_mark", [0x2757]),
   ("heavy_heart_exclamation", [0x2763]), ("heavy_heart_exclamation_mark_ornament", [0x2763]),
   ("heavy_large_circle", [0x2b55]), ("heavy_minus_sign", [0x2796]),
   ("heavy_multiplication_x", [0x2716]), ("heavy_plus_sign", [0x2795]), ("hedgehog", [0x1f994]),
   ("helicopter", [0x1f681]), ("helm_symbol", [0x2388]), ("helmet_with_white_cross", [0x26d1]),
   ("herb", [0x1f33f]), ("hibiscus", [0x1f33a]), ("high-heeled_shoe", [0x1f460]),
   ("high-speed_train", [0x1f684]), ("high_brightness", [0x1f506]), ("high_heel", [0x1f460]),
   ("high_voltage", [0x26a1]), ("hiking_boot", [0x1f97e]), ("hindu_temple", [0x1f6d5]),
   ("hippopotamus", [0x1f99b]), ("hocho", [0x1f52a]), ("hole", [0x1f573]),
   ("honey_pot", [0x1f36f]), ("honeybee", [0x1f41d]), ("horizontal_traffic_light", [0x1f6a5]),
   ("horse", [0x1f434]), ("horse_face", [0x1f434]), ("horse_racing", [0x1f3c7]),
   ("hospital", [0x1f3e5]), ("hot_beverage", [0x2615]), ("hot_dog", [0x1f32d]),
   ("hot_face", [0x1f975]), ("hot_pepper", [0x1f336]), ("hot_springs", [0x2668]),
   ("hotel", [0x1f3e8]), ("hotsprings", [0x2668]), ("hourglass", [0x231b]),
   ("hourglass_done", [0x231b]), ("hourglass_flowing_sand", [0x23f3]),
   ("hourglass_not_done", [0x23f3]), ("house", [0x1f3e0]), ("house_buildings", [0x1f3d8]),
   ("house_with_garden", [0x1f3e1]), ("houses", [0x1f3d8]), ("hugging_face", [0x1f917]),
   ("hundred_points", [0x1f4af]), ("hushed", [0x1f62f]), ("hushed_face", [0x1f62f]),
   ("ice", [0x1f9ca]), ("ice_cream", [0x1f368]), ("ice_hockey", [0x1f3d2]),
   ("ice_hockey_stick_and_puck", [0x1f3d2]), ("ice_skate", [0x26f8]), ("icecream", [0x1f366]),
   ("id", [0x1f194]), ("id_button", [0x1f194]), ("ideograph_advantage", [0x1f250]),
   ("imp", [0x1f47f]), ("inbox_tray", [0x1f4e5]), ("incoming_envelope", [0x1f4e8]),
   ("index_pointing_up", [0x261d]), ("infinity", [0x267e]), ("information", [0x2139]),
   ("information_desk_person", [0x1f481]), ("information_source", [0x2139]),
   ("innocent", [0x1f607]), ("input_latin_letters", [0x1f524]),
   ("input_latin_lowercase", [0x1f521]), ("input_latin_uppercase", [0x1f520]),
   ("input_numbers", [0x1f522]), ("input_symbols", [0x1f523]), ("interrobang", [0x2049]),
   ("iphone", [0x1f4f1]), ("izakaya_lantern", [0x1f3ee])]

/-- Names that start with `j` to `m`. -/
def codesJToM : List (String × List Nat) :=
  [("jack-o-lantern", [0x1f383]), ("jack_o_lantern", [0x1f383]), ("japan", [0x1f5fe]),
   ("japanese_acceptable_button", [0x1f251]), ("japanese_application_button", [0x1f238]),
   ("japanese_bargain_button", [0x1f250]), ("japanese_castle", [0x1f3ef]),
   ("japanese_congratulations_button", [0x3297]), ("japanese_discount_button", [0x1f239]),
   ("japanese_dolls", [0x1f38e]), ("japanese_free_of_charge_button", [0x1f21a]),
   ("japanese_goblin", [0x1f47a]), ("japanese_here_button", [0x1f201]),
   ("japanese_monthly_amount_button", [0x1f237]), ("japanese_no_vacancy_button", [0x1f235]),
   ("japanese_not_free_of_charge_button", [0x1f236]), ("japanese_ogre", [0x1f479]),
   ("japanese_open_for_business_button", [0x1f23a]), ("japanese_passing_grade_button", [0x1f234]),
   ("japanese_post_office", [0x1f3e3]), ("japanese_prohibited_button", [0x1f232]),
   ("japanese_reserved_button", [0x1f22f]), ("japanese_secret_button", [0x3299]),
   ("japanese_service_charge_button", [0x1f202]), ("japanese_symbol_for_beginner", [0x1f530]),
   ("japanese_vacancy_button", [0x1f233]), ("jeans", [0x1f456]), ("jigsaw", [0x1f9e9]),
   ("joker", [0x1f0cf]), ("joy", [0x1f602]), ("joy_cat", [0x1f639]), ("joystick", [0x1f579]),
   ("kaaba", [0x1f54b]), ("kangaroo", [0x1f998]), ("key", [0x1f511]), ("keyboard", [0x2328]),
   ("keycap_#", [0x23, 0xfe0f, 0x20e3]), ("keycap_*", [0x2a, 0xfe0f, 0x20e3]),
   ("keycap_0", [0x30, 0xfe0f, 0x20e3]), ("keycap_1", [0x31, 0xfe0f, 0x20e3]),
   ("keycap_10", [0x1f51f]), ("keycap_2", [0x32, 0xfe0f, 0x20e3]),
   ("keycap_3", [0x33, 0xfe0f, 0x20e3]), ("keycap_4", [0x34, 0xfe0f, 0x20e3]),
   ("keycap_5", [0x35, 0xfe0f, 0x20e3]), ("keycap_6", [0x36, 0xfe0f, 0x20e3]),
   ("keycap_7", [0x37, 0xfe0f, 0x20e3]), ("keycap_8", [0x38, 0xfe0f, 0x20e3]),
   ("keycap_9", [0x39, 0xfe0f, 0x20e3]), ("keycap_asterisk", [0x2a, 0x20e3]),
   ("keycap_digit_eight", [0x38, 0x20e3]), ("keycap_digit_five", [0x35, 0x20e3]),
   ("keycap_digit_four", [0x34, 0x20e3]), ("keycap_digit_nine", [0x39, 0x20e3]),
   ("keycap_digit_one", [0x31, 0x20e3]), ("keycap_digit_seven", [0x37, 0x20e3]),
   ("keycap_digit_six", [0x36, 0x20e3]), ("keycap_digit_three", [0x33, 0x20e3]),
   ("keycap_digit_two", [0x32, 0x20e3]), ("keycap_digit_zero", [0x30, 0x20e3]),
   ("keycap_number_sign", [0x23, 0x20e3]), ("kick_scooter", [0x1f6f4]), ("kimono", [0x1f458]),
   ("kiss", [0x1f48b]),
   ("kiss_man_man", [0x1f468, 0x200d, 0x2764, 0xfe0f, 0x200d, 0x1f48b, 0x200d, 0x1f468]),
   ("kiss_mark", [0x1f48b]),
   ("kiss_woman_man", [0x1f469, 0x200d, 0x2764, 0xfe0f, 0x200d, 0x1f48b, 0x200d, 0x1f468]),
   ("kiss_woman_woman", [0x1f469, 0x200d, 0x2764, 0xfe0f, 0x200d, 0x1f48b, 0x200d, 0x1f469]),
   ("kissing", [0x1f617]), ("kissing_cat", [0x1f63d]), ("kissing_cat_face", [0x1f63d]),
   ("kissing_closed_eyes", [0x1f61a]), ("kissing_face", [0x1f617]),
   ("kissing_face_with_closed_eyes", [0x1f61a]), ("kissing_face_with_smiling_eyes", [0x1f619]),
   ("kissing_heart", [0x1f618]), ("kissing_smiling_eyes", [0x1f619]), ("kitchen_knife", [0x1f52a]),
   ("kite", [0x1fa81]), ("kiwi_fruit", [0x1f95d]), ("knife", [0x1f52a]), ("koala", [0x1f428]),
   ("koko", [0x1f201]), ("lab_coat", [0x1f97c]), ("label", [0x1f3f7]), ("lacrosse", [0x1f94d]),
   ("lady_beetle", [0x1f41e]), ("lantern", [0x1f3ee]), ("laptop_computer", [0x1f4bb]),
   ("large_blue_circle", [0x1f535]), ("large_blue_diamond", [0x1f537]),
   ("large_orange_diamond", [0x1f536]), ("last_quarter_moon", [0x1f317]),
   ("last_quarter_moon_face", [0x1f31c]), ("last_quarter_moon_with_face", [0x1f31c]),
   ("last_track_button", [0x23ee]), ("latin_cross", [0x271d]), ("laughing", [0x1f606]),
   ("leaf_fluttering_in_wind", [0x1f343]), ("leafy_green", [0x1f96c]), ("leaves", [0x1f343]),
   ("ledger", [0x1f4d2]), ("left-facing_fist", [0x1f91b]), ("left-right_arrow", [0x2194]),
   ("left_arrow", [0x2b05]), ("left_arrow_curving_right", [0x21aa]), ("left_luggage", [0x1f6c5]),
   ("left_right_arrow", [0x2194]), ("left_speech_bubble", [0x1f5e8]),
   ("leftwards_arrow_with_hook", [0x21a9]), ("leg", [0x1f9b5]), ("lemon", [0x1f34b]),
   ("leo", [0x264c]), ("leopard", [0x1f406]), ("level_slider", [0x1f39a]), ("libra", [0x264e]),
   ("light_bulb", [0x1f4a1]), ("light_rail", [0x1f688]), ("light_skin_tone", [0x1f3fb]),
   ("link", [0x1f517]), ("linked_paperclips", [0x1f587]), ("lion_face", [0x1f981]),
   ("lips", [0x1f444]), ("lipstick", [0x1f484]), ("litter_in_bin_sign", [0x1f6ae]),
   ("lizard", [0x1f98e]), ("llama", [0x1f999]), ("lobster", [0x1f99e]), ("lock", [0x1f512]),
   ("lock_with_ink_pen", [0x1f50f]), ("locked", [0x1f512]), ("locked_with_key", [0x1f510]),
   ("locked_with_pen", [0x1f50f]), ("locomotive", [0x1f682]), ("lollipop", [0x1f36d]),
   ("loop", [0x27bf]), ("lotion_bottle", [0x1f9f4]), ("loud_sound", [0x1f50a]),
   ("loudly_crying_face", [0x1f62d]), ("loudspeaker", [0x1f4e2]), ("love-you_gesture", [0x1f91f]),
   ("love_hotel", [0x1f3e9]), ("love_letter", [0x1f48c]), ("low_brightness", [0x1f505]),
   ("lower_left_ballpoint_pen", [0x1f58a]), ("lower_left_crayon", [0x1f58d]),
   ("lower_left_fountain_pen", [0x1f58b]), ("lower_left_paintbrush", [0x1f58c]),
   ("luggage", [0x1f9f3]), ("lying_face", [0x1f925]), ("m", [0x24c2]), ("mag", [0x1f50d]),
   ("mag_right", [0x1f50e]), ("mage", [0x1f9d9]), ("magnet", [0x1f9f2]),
   ("magnifying_glass_tilted_left", [0x1f50d]), ("magnifying_glass_tilted_right", [0x1f50e]),
   ("mahjong", [0x1f004]), ("mahjong_red_dragon", [0x1f004]), ("mailbox", [0x1f4eb]),
   ("mailbox_closed", [0x1f4ea]), ("mailbox_with_mail", [0x1f4ec]),
   ("mailbox_with_no_mail", [0x1f4ed]), ("male_sign", [0x2642]), ("man", [0x1f468]),
   ("man_and_woman_holding_hands", [0x1f46b]), ("man_artist", [0x1f468, 0x200d, 0x1f3a8]),
   ("man_astronaut", [0x1f468, 0x200d, 0x1f680]),
   ("man_biking", [0x1f6b4, 0x200d, 0x2642, 0xfe0f]),
   ("man_bouncing_ball", [0x26f9, 0xfe0f, 0x200d, 0x2642, 0xfe0f]),
   ("man_bowing", [0x1f647, 0x200d, 0x2642, 0xfe0f]),
   ("man_cartwheeling", [0x1f938, 0x200d, 0x2642, 0xfe0f]),
   ("man_climbing", [0x1f9d7, 0x200d, 0x2642, 0xfe0f]),
   ("man_construction_worker", [0x1f477, 0x200d, 0x2642, 0xfe0f]),
   ("man_cook", [0x1f468, 0x200d, 0x1f373]), ("man_dancing", [0x1f57a]),
   ("man_detective", [0x1f575, 0xfe0f, 0x200d, 0x2642, 0xfe0f]),
   ("man_elf", [0x1f9dd, 0x200d, 0x2642, 0xfe0f]),
   ("man_facepalming", [0x1f926, 0x200d, 0x2642, 0xfe0f]),
   ("man_factory_worker", [0x1f468, 0x200d, 0x1f3ed]),
   ("man_fairy", [0x1f9da, 0x200d, 0x2642, 0xfe0f]), ("man_farmer", [0x1f468, 0x200d, 0x1f33e]),
   ("man_firefighter", [0x1f468, 0x200d, 0x1f692]),
   ("man_frowning", [0x1f64d, 0x200d, 0x2642, 0xfe0f]),
   ("man_genie", [0x1f9de, 0x200d, 0x2642, 0xfe0f]),
   ("man_gesturing_no", [0x1f645, 0x200d, 0x2642, 0xfe0f]),
   ("man_gesturing_ok", [0x1f646, 0x200d, 0x2642, 0xfe0f]),
   ("man_getting_haircut", [0x1f487, 0x200d, 0x2642, 0xfe0f]),
   ("man_getting_massage", [0x1f486, 0x200d, 0x2642, 0xfe0f]),
   ("man_golfing", [0x1f3cc, 0xfe0f, 0x200d, 0x2642, 0xfe0f]),
   ("man_guard", [0x1f482, 0x200d, 0x2642, 0xfe0f]),
   ("man_health_worker", [0x1f468, 0x200d, 0x2695, 0xfe0f]),
   ("man_in_business_suit_levitating", [0x1f574]),
   ("man_in_lotus_position", [0x1f9d8, 0x200d, 0x2642, 0xfe0f]),
   ("man_in_manual_wheelchair", [0x1f468, 0x200d, 0x1f9bd]),
   ("man_in_motorized_wheelchair", [0x1f468, 0x200d, 0x1f9bc]),
   ("man_in_steamy_room", [0x1f9d6, 0x200d, 0x2642, 0xfe0f]),
   ("man_in_suit_levitating", [0x1f574]), ("man_in_tuxedo", [0x1f935]),
   ("man_judge", [0x1f468, 0x200d, 0x2696, 0xfe0f]),
   ("man_juggling", [0x1f939, 0x200d, 0x2642, 0xfe0f]),
   ("man_lifting_weights", [0x1f3cb, 0xfe0f, 0x200d, 0x2642, 0xfe0f]),
   ("man_mage", [0x1f9d9, 0x200d, 0x2642, 0xfe0f]), ("man_mechanic", [0x1f468, 0x200d, 0x1f527]),
   ("man_mountain_biking", [0x1f6b5, 0x200d, 0x2642, 0xfe0f]),
   ("man_office_worker", [0x1f468, 0x200d, 0x1f4bc]),
   ("man_pilot", [0x1f468, 0x200d, 0x2708, 0xfe0f]),
   ("man_playing_handball", [0x1f93e, 0x200d, 0x2642, 0xfe0f]),
   ("man_playing_water_polo", [0x1f93d, 0x200d, 0x2642, 0xfe0f]),
   ("man_police_officer", [0x1f46e, 0x200d, 0x2642, 0xfe0f]),
   ("man_pouting", [0x1f64e, 0x200d, 0x2642, 0xfe0f]),
   ("man_raising_hand", [0x1f64b, 0x200d, 0x2642, 0xfe0f]),
   ("man_rowing_boat", [0x1f6a3, 0x200d, 0x2642, 0xfe0f]),
   ("man_running", [0x1f3c3, 0x200d, 0x2642, 0xfe0f]),
   ("man_scientist", [0x1f468, 0x200d, 0x1f52c]),
   ("man_shrugging", [0x1f937, 0x200d, 0x2642, 0xfe0f]),
   ("man_singer", [0x1f468, 0x200d, 0x1f3a4]), ("man_student", [0x1f468, 0x200d, 0x1f393]),
   ("man_surfing", [0x1f3c4, 0x200d, 0x2642, 0xfe0f]),
   ("man_swimming", [0x1f3ca, 0x200d, 0x2642, 0xfe0f]),
   ("man_teacher", [0x1f468, 0x200d, 0x1f3eb]), ("man_technologist", [0x1f468, 0x200d, 0x1f4bb]),
   ("man_tipping_hand", [0x1f481, 0x200d, 0x2642, 0xfe0f]),
   ("man_vampire", [0x1f9db, 0x200d, 0x2642, 0xfe0f]),
   ("man_walking", [0x1f6b6, 0x200d, 0x2642, 0xfe0f]),
   ("man_wearing_turban", [0x1f473, 0x200d, 0x2642, 0xfe0f]), ("man_with_chinese_cap", [0x1f472]),
   ("man_with_gua_pi_mao", [0x1f472]), ("man_with_probing_cane", [0x1f468, 0x200d, 0x1f9af]),
   ("man_with_turban", [0x1f473]), ("man_zombie", [0x1f9df, 0x200d, 0x2642, 0xfe0f]),
   ("mango", [0x1f96d]), ("mans_shoe", [0x1f45e]), ("mantelpiece_clock", [0x1f570]),
   ("manual_wheelchair", [0x1f9bd]), ("man’s_shoe", [0x1f45e]), ("map_of_japan", [0x1f5fe]),
   ("maple_leaf", [0x1f341]), ("martial_arts_uniform", [0x1f94b]), ("mask", [0x1f637]),
   ("massage", [0x1f486]), ("mate", [0x1f9c9]), ("meat_on_bone", [0x1f356]),
   ("mechanical_arm", [0x1f9be]), ("mechanical_leg", [0x1f9bf]), ("medical_symbol", [0x2695]),
   ("medium_dark_skin_tone", [0x1f3fe]), ("medium_light_skin_tone", [0x1f3fc]),
   ("medium_skin_tone", [0x1f3fd]), ("mega", [0x1f4e3]), ("megaphone", [0x1f4e3]),
   ("melon", [0x1f348]), ("memo", [0x1f4dd]),
   ("men_with_bunny_ears", [0x1f46f, 0x200d, 0x2642, 0xfe0f]),
   ("men_wrestling", [0x1f93c, 0x200d, 0x2642, 0xfe0f]), ("menorah", [0x1f54e]),
   ("menorah_with_nine_branches", [0x1f54e]), ("mens", [0x1f6b9]), ("men’s_room", [0x1f6b9]),
   ("mermaid", [0x1f9dc, 0x200d, 0x2640, 0xfe0f]), ("merman", [0x1f9dc, 0x200d, 0x2642, 0xfe0f]),
   ("merperson", [0x1f9dc]), ("metro", [0x1f687]), ("microbe", [0x1f9a0]),
   ("microphone", [0x1f3a4]), ("microscope", [0x1f52c]), ("middle_finger", [0x1f595]),
   ("military_medal", [0x1f396]), ("milky_way", [0x1f30c]), ("minibus", [0x1f690]),
   ("minidisc", [0x1f4bd]), ("moai", [0x1f5ff]), ("mobile_phone", [0x1f4f1]),
   ("mobile_phone_off", [0x1f4f4]), ("mobile_phone_with_arrow", [0x1f4f2]),
   ("money-mouth_face", [0x1f911]), ("money__mouth_face", [0x1f911]), ("money_bag", [0x1f4b0]),
   ("money_with_wings", [0x1f4b8]), ("moneybag", [0x1f4b0]), ("monkey", [0x1f412]),
   ("monkey_face", [0x1f435]), ("monorail", [0x1f69d]), ("moon", [0x1f314]),
   ("moon_cake", [0x1f96e]), ("moon_viewing_ceremony", [0x1f391]), ("mortar_board", [0x1f393]),
   ("mosque", [0x1f54c]), ("mosquito", [0x1f99f]), ("motor_boat", [0x1f6e5]),
   ("motor_scooter", [0x1f6f5]), ("motorcycle", [0x1f3cd]), ("motorized_wheelchair", [0x1f9bc]),
   ("motorway", [0x1f6e3]), ("mount_fuji", [0x1f5fb]), ("mountain", [0x26f0]),
   ("mountain_bicyclist", [0x1f6b5]), ("mountain_cableway", [0x1f6a0]),
   ("mountain_railway", [0x1f69e]), ("mouse", [0x1f42d]), ("mouse2", [0x1f401]),
   ("mouse_face", [0x1f42d]), ("mouth", [0x1f444]), ("movie_camera", [0x1f3a5]),
   ("moyai", [0x1f5ff]), ("mrs._claus", [0x1f936]), ("muscle", [0x1f4aa]), ("mushroom", [0x1f344]),
   ("musical_keyboard", [0x1f3b9]), ("musical_note", [0x1f3b5]), ("musical_notes", [0x1f3b6]),
   ("musical_score", [0x1f3bc]), ("mute", [0x1f507]), ("muted_speaker", [0x1f507])]

/-- Names that start with `n` to `q`. -/
def codesNToQ : List (String × List Nat) :=
  [("nail_care", [0x1f485]), ("nail_polish", [0x1f485]), ("name_badge", [0x1f4db]),
   ("national_park", [0x1f3de]), ("nauseated_face", [0x1f922]), ("nazar_amulet", [0x1f9ff]),
   ("necktie", [0x1f454]), ("negative_squared_cross_mark", [0x274e]), ("nerd_face", [0x1f913]),
   ("neutral_face", [0x1f610]), ("new", [0x1f195]), ("new_button", [0x1f195]),
   ("new_moon", [0x1f311]), ("new_moon_face", [0x1f31a]), ("new_moon_with_face", [0x1f31a]),
   ("newspaper", [0x1f4f0]), ("next_track_button", [0x23ed]), ("ng", [0x1f196]),
   ("ng_button", [0x1f196]), ("night_with_stars", [0x1f303]), ("nine", [0x39, 0xfe0f, 0x20e3]),
   ("nine-thirty", [0x1f564]), ("nine_o’clock", [0x1f558]), ("no_bell", [0x1f515]),
   ("no_bicycles", [0x1f6b3]), ("no_entry", [0x26d4]), ("no_entry_sign", [0x1f6ab]),
   ("no_good", [0x1f645]), ("no_littering", [0x1f6af]), ("no_mobile_phones", [0x1f4f5]),
   ("no_mouth", [0x1f636]), ("no_one_under_eighteen", [0x1f51e]), ("no_pedestrians", [0x1f6b7]),
   ("no_smoking", [0x1f6ad]), ("non-potable_water", [0x1f6b1]), ("non__potable_water", [0x1f6b1]),
   ("nose", [0x1f443]), ("notebook", [0x1f4d3]), ("notebook_with_decorative_cover", [0x1f4d4]),
   ("notes", [0x1f3b6]), ("nut_and_bolt", [0x1f529]), ("o", [0x2b55]), ("o2", [0x1f17e]),
   ("o_button_(blood_type)", [0x1f17e]), ("ocean", [0x1f30a]), ("octopus", [0x1f419]),
   ("oden", [0x1f362]), ("office", [0x1f3e2]), ("office_building", [0x1f3e2]), ("ogre", [0x1f479]),
   ("oil_drum", [0x1f6e2]), ("ok", [0x1f197]), ("ok_button", [0x1f197]), ("ok_hand", [0x1f44c]),
   ("ok_woman", [0x1f646]), ("old_key", [0x1f5dd]), ("old_man", [0x1f474]),
   ("old_woman", [0x1f475]), ("older_adult", [0x1f9d3]), ("older_man", [0x1f474]),
   ("older_woman", [0x1f475]), ("om", [0x1f549]), ("om_symbol", [0x1f549]), ("on", [0x1f51b]),
   ("on!_arrow", [0x1f51b]), ("oncoming_automobile", [0x1f698]), ("oncoming_bus", [0x1f68d]),
   ("oncoming_fist", [0x1f44a]), ("oncoming_police_car", [0x1f694]), ("oncoming_taxi", [0x1f696]),
   ("one", [0x31, 0xfe0f, 0x20e3]), ("one-piece_swimsuit", [0x1fa71]), ("one-thirty", [0x1f55c]),
   ("one_o’clock", [0x1f550]), ("onion", [0x1f9c5]), ("open_book", [0x1f4d6]),
   ("open_file_folder", [0x1f4c2]), ("open_hands", [0x1f450]),
   ("open_mailbox_with_lowered_flag", [0x1f4ed]), ("open_mailbox_with_raised_flag", [0x1f4ec]),
   ("open_mouth", [0x1f62e]), ("ophiuchus", [0x26ce]), ("optical_disk", [0x1f4bf]),
   ("orange_book", [0x1f4d9]), ("orange_circle", [0x1f7e0]), ("orange_heart", [0x1f9e1]),
   ("orange_square", [0x1f7e7]), ("orangutan", [0x1f9a7]), ("orthodox_cross", [0x2626]),
   ("otter", [0x1f9a6]), ("outbox_tray", [0x1f4e4]), ("owl", [0x1f989]), ("ox", [0x1f402]),
   ("oyster", [0x1f9aa]), ("p_button", [0x1f17f]), ("package", [0x1f4e6]),
   ("page_facing_up", [0x1f4c4]), ("page_with_curl", [0x1f4c3]), ("pager", [0x1f4df]),
   ("paintbrush", [0x1f58c]), ("palm_tree", [0x1f334]), ("palms_up_together", [0x1f932]),
   ("pancakes", [0x1f95e]), ("panda_face", [0x1f43c]), ("paperclip", [0x1f4ce]),
   ("parking", [0x1f17f]), ("parrot", [0x1f99c]), ("part_alternation_mark", [0x303d]),
   ("partly_sunny", [0x26c5]), ("party_popper", [0x1f389]), ("partying_face", [0x1f973]),
   ("passenger_ship", [0x1f6f3]), ("passport_control", [0x1f6c2]), ("pause_button", [0x23f8]),
   ("paw_prints", [0x1f43e]), ("peace_symbol", [0x262e]), ("peach", [0x1f351]),
   ("peacock", [0x1f99a]), ("peanuts", [0x1f95c]), ("pear", [0x1f350]), ("pen", [0x1f58a]),
   ("pencil", [0x1f4dd]), ("pencil2", [0x270f]), ("penguin", [0x1f427]), ("pensive", [0x1f614]),
   ("pensive_face", [0x1f614]),
   ("people_holding_hands", [0x1f9d1, 0x200d, 0x1f91d, 0x200d, 0x1f9d1]),
   ("people_with_bunny_ears", [0x1f46f]), ("people_wrestling", [0x1f93c]),
   ("performing_arts", [0x1f3ad]), ("persevere", [0x1f623]), ("persevering_face", [0x1f623]),
   ("person_biking", [0x1f6b4]), ("person_bouncing_ball", [0x26f9]), ("person_bowing", [0x1f647]),
   ("person_cartwheeling", [0x1f938]), ("person_climbing", [0x1f9d7]),
   ("person_facepalming", [0x1f926]), ("person_fencing", [0x1f93a]),
   ("person_frowning", [0x1f64d]), ("person_gesturing_no", [0x1f645]),
   ("person_gesturing_ok", [0x1f646]), ("person_getting_haircut", [0x1f487]),
   ("person_getting_massage", [0x1f486]), ("person_golfing", [0x1f3cc]),
   ("person_in_bed", [0x1f6cc]), ("person_in_lotus_position", [0x1f9d8]),
   ("person_in_steamy_room", [0x1f9d6]), ("person_juggling", [0x1f939]),
   ("person_kneeling", [0x1f9ce]), ("person_lifting_weights", [0x1f3cb]),
   ("person_mountain_biking", [0x1f6b5]), ("person_playing_handball", [0x1f93e]),
   ("person_playing_water_polo", [0x1f93d]), ("person_pouting", [0x1f64e]),
   ("person_raising_hand", [0x1f64b]), ("person_rowing_boat", [0x1f6a3]),
   ("person_running", [0x1f3c3]), ("person_shrugging", [0x1f937]), ("person_standing", [0x1f9cd]),
   ("person_surfing", [0x1f3c4]), ("person_swimming", [0x1f3ca]),
   ("person_taking_bath", [0x1f6c0]), ("person_tipping_hand", [0x1f481]),
   ("person_walking", [0x1f6b6]), ("person_wearing_turban", [0x1f473]),
   ("person_with_ball", [0x26f9]), ("person_with_blond_hair", [0x1f471]),
   ("person_with_pouting_face", [0x1f64e]), ("petri_dish", [0x1f9eb]), ("phone", [0x260e]),
   ("pick", [0x26cf]), ("pie", [0x1f967]), ("pig", [0x1f437]), ("pig2", [0x1f416]),
   ("pig_face", [0x1f437]), ("pig_nose", [0x1f43d]), ("pile_of_poo", [0x1f4a9]),
   ("pill", [0x1f48a]), ("pinching_hand", [0x1f90f]), ("pine_decoration", [0x1f38d]),
   ("pineapple", [0x1f34d]), ("ping_pong", [0x1f3d3]),
   ("pirate_flag", [0x1f3f4, 0x200d, 0x2620, 0xfe0f]), ("pisces", [0x2653]), ("pistol", [0x1f52b]),
   ("pizza", [0x1f355]), ("place_of_worship", [0x1f6d0]), ("play_button", [0x25b6]),
   ("play_or_pause_button", [0x23ef]), ("pleading_face", [0x1f97a]), ("point_down", [0x1f447]),
   ("point_left", [0x1f448]), ("point_right", [0x1f449]), ("point_up", [0x261d]),
   ("point_up_2", [0x1f446]), ("police_car", [0x1f693]), ("police_car_light", [0x1f6a8]),
   ("police_officer", [0x1f46e]), ("poodle", [0x1f429]), ("pool_8_ball", [0x1f3b1]),
   ("poop", [0x1f4a9]), ("popcorn", [0x1f37f]), ("post_office", [0x1f3e3]),
   ("postal_horn", [0x1f4ef]), ("postbox", [0x1f4ee]), ("pot_of_food", [0x1f372]),
   ("potable_water", [0x1f6b0]), ("potato", [0x1f954]), ("pouch", [0x1f45d]),
   ("poultry_leg", [0x1f357]), ("pound", [0x1f4b7]), ("pound_banknote", [0x1f4b7]),
   ("pouting_cat", [0x1f63e]), ("pouting_cat_face", [0x1f63e]), ("pouting_face", [0x1f621]),
   ("pray", [0x1f64f]), ("prayer_beads", [0x1f4ff]), ("pregnant_woman", [0x1f930]),
   ("pretzel", [0x1f968]), ("prince", [0x1f934]), ("princess", [0x1f478]), ("printer", [0x1f5a8]),
   ("probing_cane", [0x1f9af]), ("prohibited", [0x1f6ab]), ("punch", [0x1f44a]),
   ("purple_circle", [0x1f7e3]), ("purple_heart", [0x1f49c]), ("purple_square", [0x1f7ea]),
   ("purse", [0x1f45b]), ("pushpin", [0x1f4cc]), ("put_litter_in_its_place", [0x1f6ae]),
   ("question", [0x2753]), ("question_mark", [0x2753])]

/-- Names that start with `r` and `s`. -/
def codesRToS : List (String × List Nat) :=
  [("rabbit", [0x1f430]), ("rabbit2", [0x1f407]), ("rabbit_face", [0x1f430]),
   ("raccoon", [0x1f99d]), ("racehorse", [0x1f40e]), ("racing_car", [0x1f3ce]),
   ("racing_motorcycle", [0x1f3cd]), ("radio", [0x1f4fb]), ("radio_button", [0x1f518]),
   ("radioactive", [0x2622]), ("radioactive_sign", [0x2622]), ("rage", [0x1f621]),
   ("railway_car", [0x1f683]), ("railway_track", [0x1f6e4]), ("rainbow", [0x1f308]),
   ("rainbow_flag", [0x1f3f3, 0xfe0f, 0x200d, 0x1f308]), ("raised_back_of_hand", [0x1f91a]),
   ("raised_fist", [0x270a]), ("raised_hand", [0x270b]),
   ("raised_hand_with_fingers_splayed", [0x1f590]),
   ("raised_hand_with_part_between_middle_and_ring_fingers", [0x1f596]),
   ("raised_hands", [0x1f64c]), ("raising_hand", [0x1f64b]), ("raising_hands", [0x1f64c]),
   ("ram", [0x1f40f]), ("ramen", [0x1f35c]), ("rat", [0x1f400]), ("razor", [0x1fa92]),
   ("receipt", [0x1f9fe]), ("record_button", [0x23fa]), ("recycle", [0x267b]),
   ("recycling_symbol", [0x267b]), ("red-haired_man", [0x1f468, 0x200d, 0x1f9b0]),
   ("red-haired_woman", [0x1f469, 0x200d, 0x1f9b0]), ("red_apple", [0x1f34e]),
   ("red_car", [0x1f697]), ("red_circle", [0x1f534]), ("red_envelope", [0x1f9e7]),
   ("red_hair", [0x1f9b0]), ("red_heart", [0x2764]), ("red_paper_lantern", [0x1f3ee]),
   ("red_square", [0x1f7e5]), ("red_triangle_pointed_down", [0x1f53b]),
   ("red_triangle_pointed_up", [0x1f53a]), ("regional_indicator_a", [0x1f1e6]),
   ("regional_indicator_b", [0x1f1e7]), ("regional_indicator_c", [0x1f1e8]),
   ("regional_indicator_d", [0x1f1e9]), ("regional_indicator_e", [0x1f1ea]),
   ("regional_indicator_f", [0x1f1eb]), ("regional_indicator_g", [0x1f1ec]),
   ("regional_indicator_h", [0x1f1ed]), ("regional_indicator_i", [0x1f1ee]),
   ("regional_indicator_j", [0x1f1ef]), ("regional_indicator_k", [0x1f1f0]),
   ("regional_indicator_l", [0x1f1f1]), ("regional_indicator_m", [0x1f1f2]),
   ("regional_indicator_n", [0x1f1f3]), ("regional_indicator_o", [0x1f1f4]),
   ("regional_indicator_p", [0x1f1f5]), ("regional_indicator_q", [0x1f1f6]),
   ("regional_indicator_r", [0x1f1f7]), ("regional_indicator_s", [0x1f1f8]),
   ("regional_indicator_symbol_letter_a", [0x1f1e6]),
   ("regional_indicator_symbol_letter_b", [0x1f1e7]),
   ("regional_indicator_symbol_letter_c", [0x1f1e8]),
   ("regional_indicator_symbol_letter_d", [0x1f1e9]),
   ("regional_indicator_symbol_letter_e", [0x1f1ea]),
   ("regional_indicator_symbol_letter_f", [0x1f1eb]),
   ("regional_indicator_symbol_letter_g", [0x1f1ec]),
   ("regional_indicator_symbol_letter_h", [0x1f1ed]),
   ("regional_indicator_symbol_letter_i", [0x1f1ee]),
   ("regional_indicator_symbol_letter_j", [0x1f1ef]),
   ("regional_indicator_symbol_letter_k", [0x1f1f0]),
   ("regional_indicator_symbol_letter_l", [0x1f1f1]),
   ("regional_indicator_symbol_letter_m", [0x1f1f2]),
   ("regional_indicator_symbol_letter_n", [0x1f1f3]),
   ("regional_indicator_symbol_letter_o", [0x1f1f4]),
   ("regional_indicator_symbol_letter_p", [0x1f1f5]),
   ("regional_indicator_symbol_letter_q", [0x1f1f6]),
   ("regional_indicator_symbol_letter_r", [0x1f1f7]),
   ("regional_indicator_symbol_letter_s", [0x1f1f8]),
   ("regional_indicator_symbol_letter_t", [0x1f1f9]),
   ("regional_indicator_symbol_letter_u", [0x1f1fa]),
   ("regional_indicator_symbol_letter_v", [0x1f1fb]),
   ("regional_indicator_symbol_letter_w", [0x1f1fc]),
   ("regional_indicator_symbol_letter_x", [0x1f1fd]),
   ("regional_indicator_symbol_letter_y", [0x1f1fe]),
   ("regional_indicator_symbol_letter_z", [0x1f1ff]), ("regional_indicator_t", [0x1f1f9]),
   ("regional_indicator_u", [0x1f1fa]), ("regional_indicator_v", [0x1f1fb]),
   ("regional_indicator_w", [0x1f1fc]), ("regional_indicator_x", [0x1f1fd]),
   ("regional_indicator_y", [0x1f1fe]), ("regional_indicator_z", [0x1f1ff]),
   ("registered", [0xae]), ("relaxed", [0x263a]), ("relieved", [0x1f60c]),
   ("relieved_face", [0x1f60c]), ("reminder_ribbon", [0x1f397]), ("repeat", [0x1f501]),
   ("repeat_button", [0x1f501]), ("repeat_one", [0x1f502]), ("repeat_single_button", [0x1f502]),
   ("rescue_worker’s_helmet", [0x26d1]), ("restroom", [0x1f6bb]), ("reverse_button", [0x25c0]),
   ("reversed_hand_with_middle_finger_extended", [0x1f595]), ("revolving_hearts", [0x1f49e]),
   ("rewind", [0x23ea]), ("rhinoceros", [0x1f98f]), ("ribbon", [0x1f380]), ("rice", [0x1f35a]),
   ("rice_ball", [0x1f359]), ("rice_cracker", [0x1f358]), ("rice_scene", [0x1f391]),
   ("right-facing_fist", [0x1f91c]), ("right_anger_bubble", [0x1f5ef]), ("right_arrow", [0x27a1]),
   ("right_arrow_curving_down", [0x2935]), ("right_arrow_curving_left", [0x21a9]),
   ("right_arrow_curving_up", [0x2934]), ("ring", [0x1f48d]), ("ringed_planet", [0x1fa90]),
   ("roasted_sweet_potato", [0x1f360]), ("robot", [0x1f916]), ("robot_face", [0x1f916]),
   ("rocket", [0x1f680]), ("roll_of_paper", [0x1f9fb]), ("rolled-up_newspaper", [0x1f5de]),
   ("rolled__up_newspaper", [0x1f5de]), ("roller_coaster", [0x1f3a2]),
   ("rolling_on_the_floor_laughing", [0x1f923]), ("rooster", [0x1f413]), ("rose", [0x1f339]),
   ("rosette", [0x1f3f5]), ("rotating_light", [0x1f6a8]), ("round_pushpin", [0x1f4cd]),
   ("rowboat", [0x1f6a3]), ("rugby_football", [0x1f3c9]), ("runner", [0x1f3c3]),
   ("running", [0x1f3c3]), ("running_shirt", [0x1f3bd]), ("running_shirt_with_sash", [0x1f3bd]),
   ("running_shoe", [0x1f45f]), ("sa", [0x1f202]), ("sad_but_relieved_face", [0x1f625]),
   ("safety_pin", [0x1f9f7]), ("safety_vest", [0x1f9ba]), ("sagittarius", [0x2650]),
   ("sailboat", [0x26f5]), ("sake", [0x1f376]), ("salt", [0x1f9c2]), ("sandal", [0x1f461]),
   ("sandwich", [0x1f96a]), ("santa", [0x1f385]), ("santa_claus", [0x1f385]), ("sari", [0x1f97b]),
   ("satellite", [0x1f4e1]), ("satellite_antenna", [0x1f4e1]), ("satisfied", [0x1f606]),
   ("sauropod", [0x1f995]), ("saxophone", [0x1f3b7]), ("scales", [0x2696]), ("scarf", [0x1f9e3]),
   ("school", [0x1f3eb]), ("school_backpack", [0x1f392]), ("school_satchel", [0x1f392]),
   ("scissors", [0x2702]), ("scorpio", [0x264f]), ("scorpion", [0x1f982]), ("scorpius", [0x264f]),
   ("scotland", [0x1f3f4, 0xe0067, 0xe0062, 0xe0073, 0xe0063, 0xe0074, 0xe007f]),
   ("scream", [0x1f631]), ("scream_cat", [0x1f640]), ("scroll", [0x1f4dc]), ("seat", [0x1f4ba]),
   ("secret", [0x3299]), ("see-no-evil_monkey", [0x1f648]), ("see_no_evil", [0x1f648]),
   ("seedling", [0x1f331]), ("selfie", [0x1f933]), ("service_dog", [0x1f415, 0x200d, 0x1f9ba]),
   ("seven", [0x37, 0xfe0f, 0x20e3]), ("seven-thirty", [0x1f562]), ("seven_o’clock", [0x1f556]),
   ("shallow_pan_of_food", [0x1f958]), ("shamrock", [0x2618]), ("shark", [0x1f988]),
   ("shaved_ice", [0x1f367]), ("sheaf_of_rice", [0x1f33e]), ("sheep", [0x1f411]),
   ("shell", [0x1f41a]), ("shield", [0x1f6e1]), ("shinto_shrine", [0x26e9]), ("ship", [0x1f6a2]),
   ("shirt", [0x1f455]), ("shit", [0x1f4a9]), ("shoe", [0x1f45e]), ("shooting_star", [0x1f320]),
   ("shopping_bags", [0x1f6cd]), ("shopping_cart", [0x1f6d2]), ("shortcake", [0x1f370]),
   ("shorts", [0x1fa73]), ("shower", [0x1f6bf]), ("shrimp", [0x1f990]),
   ("shuffle_tracks_button", [0x1f500]), ("shushing_face", [0x1f92b]),
   ("sign_of_the_horns", [0x1f918]), ("signal_strength", [0x1f4f6]),
   ("six", [0x36, 0xfe0f, 0x20e3]), ("six-thirty", [0x1f561]), ("six_o’clock", [0x1f555]),
   ("six_pointed_star", [0x1f52f]), ("skateboard", [0x1f6f9]), ("ski", [0x1f3bf]),
   ("skier", [0x26f7]), ("skis", [0x1f3bf]), ("skull", [0x1f480]),
   ("skull_and_crossbones", [0x2620]), ("skunk", [0x1f9a8]), ("sled", [0x1f6f7]),
   ("sleeping", [0x1f634]), ("sleeping_accommodation", [0x1f6cc]), ("sleeping_face", [0x1f634]),
   ("sleepy", [0x1f62a]), ("sleepy_face", [0x1f62a]), ("sleuth_or_spy", [0x1f575]),
   ("slightly_frowning_face", [0x1f641]), ("slightly_smiling_face", [0x1f642]),
   ("slot_machine", [0x1f3b0]), ("sloth", [0x1f9a5]), ("small_airplane", [0x1f6e9]),
   ("small_blue_diamond", [0x1f539]), ("small_orange_diamond", [0x1f538]),
   ("small_red_triangle", [0x1f53a]), ("small_red_triangle_down", [0x1f53b]), ("smile", [0x1f604]),
   ("smile_cat", [0x1f638]), ("smiley", [0x1f603]), ("smiley_cat", [0x1f63a]),
   ("smiling_cat_face_with_heart-eyes", [0x1f63b]), ("smiling_face", [0x263a]),
   ("smiling_face_with_3_hearts", [0x1f970]), ("smiling_face_with_halo", [0x1f607]),
   ("smiling_face_with_heart-eyes", [0x1f60d]), ("smiling_face_with_horns", [0x1f608]),
   ("smiling_face_with_smiling_eyes", [0x1f60a]), ("smiling_face_with_sunglasses", [0x1f60e]),
   ("smiling_imp", [0x1f608]), ("smirk", [0x1f60f]), ("smirk_cat", [0x1f63c]),
   ("smirking_face", [0x1f60f]), ("smoking", [0x1f6ac]), ("snail", [0x1f40c]),
   ("snake", [0x1f40d]), ("sneezing_face", [0x1f927]), ("snow-capped_mountain", [0x1f3d4]),
   ("snow_capped_mountain", [0x1f3d4]), ("snowboarder", [0x1f3c2]), ("snowflake", [0x2744]),
   ("snowman", [0x2603]), ("snowman_without_snow", [0x26c4]), ("soap", [0x1f9fc]),
   ("sob", [0x1f62d]), ("soccer", [0x26bd]), ("soccer_ball", [0x26bd]), ("socks", [0x1f9e6]),
   ("soft_ice_cream", [0x1f366]), ("softball", [0x1f94e]), ("soon", [0x1f51c]),
   ("soon_arrow", [0x1f51c]), ("sos", [0x1f198]), ("sos_button", [0x1f198]), ("sound", [0x1f509]),
   ("space_invader", [0x1f47e]), ("spade_suit", [0x2660]), ("spades", [0x2660]),
   ("spaghetti", [0x1f35d]), ("sparkle", [0x2747]), ("sparkler", [0x1f387]),
   ("sparkles", [0x2728]), ("sparkling_heart", [0x1f496]), ("speak-no-evil_monkey", [0x1f64a]),
   ("speak_no_evil", [0x1f64a]), ("speaker", [0x1f508]), ("speaker_high_volume", [0x1f50a]),
   ("speaker_low_volume", [0x1f508]), ("speaker_medium_volume", [0x1f509]),
   ("speaking_head", [0x1f5e3]), ("speaking_head_in_silhouette", [0x1f5e3]),
   ("speech_balloon", [0x1f4ac]), ("speedboat", [0x1f6a4]), ("spider", [0x1f577]),
   ("spider_web", [0x1f578]), ("spiral_calendar", [0x1f5d3]), ("spiral_calendar_pad", [0x1f5d3]),
   ("spiral_note_pad", [0x1f5d2]), ("spiral_notepad", [0x1f5d2]), ("spiral_shell", [0x1f41a]),
   ("sponge", [0x1f9fd]), ("spoon", [0x1f944]), ("sport_utility_vehicle", [0x1f699]),
   ("sports_medal", [0x1f3c5]), ("spouting_whale", [0x1f433]), ("squid", [0x1f991]),
   ("squinting_face_with_tongue", [0x1f61d]), ("stadium", [0x1f3df]), ("star", [0x2b50]),
   ("star-struck", [0x1f929]), ("star2", [0x1f31f]), ("star_and_crescent", [0x262a]),
   ("star_of_david", [0x2721]), ("stars", [0x1f320]), ("station", [0x1f689]),
   ("statue_of_liberty", [0x1f5fd]), ("steam_locomotive", [0x1f682]), ("steaming_bowl", [0x1f35c]),
   ("stethoscope", [0x1fa7a]), ("stew", [0x1f372]), ("stop_button", [0x23f9]),
   ("stop_sign", [0x1f6d1]), ("stopwatch", [0x23f1]), ("straight_ruler", [0x1f4cf]),
   ("strawberry", [0x1f353]), ("stuck_out_tongue", [0x1f61b]),
   ("stuck_out_tongue_closed_eyes", [0x1f61d]), ("stuck_out_tongue_winking_eye", [0x1f61c]),
   ("studio_microphone", [0x1f399]), ("stuffed_flatbread", [0x1f959]), ("sun", [0x2600]),
   ("sun_behind_cloud", [0x26c5]), ("sun_behind_large_cloud", [0x1f325]),
   ("sun_behind_rain_cloud", [0x1f326]), ("sun_behind_small_cloud", [0x1f324]),
   ("sun_with_face", [0x1f31e]), ("sunflower", [0x1f33b]), ("sunglasses", [0x1f60e]),
   ("sunny", [0x2600]), ("sunrise", [0x1f305]), ("sunrise_over_mountains", [0x1f304]),
   ("sunset", [0x1f307]), ("superhero", [0x1f9b8]), ("supervillain", [0x1f9b9]),
   ("surfer", [0x1f3c4]), ("sushi", [0x1f363]), ("suspension_railway", [0x1f69f]),
   ("swan", [0x1f9a2]), ("sweat", [0x1f613]), ("sweat_droplets", [0x1f4a6]),
   ("sweat_drops", [0x1f4a6]), ("sweat_smile", [0x1f605]), ("sweet_potato", [0x1f360]),
   ("swimmer", [0x1f3ca]), ("symbols", [0x1f523]), ("synagogue", [0x1f54d]),
   ("syringe", [0x1f489])]

/-- Names that start with `t` to `z`. -/
def codesTToZ : List (String × List Nat) :=
  [("t-rex", [0x1f996]), ("t-shirt", [0x1f455]), ("table_tennis_paddle_and_ball", [0x1f3d3]),
   ("taco", [0x1f32e]), ("tada", [0x1f389]), ("takeout_box", [0x1f961]),
   ("tanabata_tree", [0x1f38b]), ("tangerine", [0x1f34a]), ("taurus", [0x2649]),
   ("taxi", [0x1f695]), ("tea", [0x1f375]), ("teacup_without_handle", [0x1f375]),
   ("tear-off_calendar", [0x1f4c6]), ("teddy_bear", [0x1f9f8]), ("telephone", [0x260e]),
   ("telephone_receiver", [0x1f4de]), ("telescope", [0x1f52d]), ("television", [0x1f4fa]),
   ("ten", [0x1f51f]), ("ten-thirty", [0x1f565]), ("ten_o’clock", [0x1f559]),
   ("tennis", [0x1f3be]), ("tent", [0x26fa]), ("test_tube", [0x1f9ea]), ("thermometer", [0x1f321]),
   ("thinking_face", [0x1f914]), ("thought_balloon", [0x1f4ad]), ("thread", [0x1f9f5]),
   ("three", [0x33, 0xfe0f, 0x20e3]), ("three-thirty", [0x1f55e]),
   ("three_button_mouse", [0x1f5b1]), ("three_o’clock", [0x1f552]), ("thumbs_down", [0x1f44e]),
   ("thumbs_up", [0x1f44d]), ("thumbsdown", [0x1f44e]), ("thumbsup", [0x1f44d]),
   ("thunder_cloud_and_rain", [0x26c8]), ("ticket", [0x1f3ab]), ("tiger", [0x1f42f]),
   ("tiger2", [0x1f405]), ("tiger_face", [0x1f42f]), ("timer_clock", [0x23f2]),
   ("tired_face", [0x1f62b]), ("tm", [0x2122]), ("toilet", [0x1f6bd]), ("tokyo_tower", [0x1f5fc]),
   ("tomato", [0x1f345]), ("tongue", [0x1f445]), ("toolbox", [0x1f9f0]), ("tooth", [0x1f9b7]),
   ("top", [0x1f51d]), ("top_arrow", [0x1f51d]), ("top_hat", [0x1f3a9]), ("tophat", [0x1f3a9]),
   ("tornado", [0x1f32a]), ("trackball", [0x1f5b2]), ("tractor", [0x1f69c]),
   ("trade_mark", [0x2122]), ("traffic_light", [0x1f6a5]), ("train", [0x1f68b]),
   ("train2", [0x1f686]), ("tram", [0x1f68a]), ("tram_car", [0x1f68b]),
   ("triangular_flag", [0x1f6a9]), ("triangular_flag_on_post", [0x1f6a9]),
   ("triangular_ruler", [0x1f4d0]), ("trident", [0x1f531]), ("trident_emblem", [0x1f531]),
   ("triumph", [0x1f624]), ("trolleybus", [0x1f68e]), ("trophy", [0x1f3c6]),
   ("tropical_drink", [0x1f379]), ("tropical_fish", [0x1f420]), ("truck", [0x1f69a]),
   ("trumpet", [0x1f3ba]), ("tshirt", [0x1f455]), ("tulip", [0x1f337]),
   ("tumbler_glass", [0x1f943]), ("turkey", [0x1f983]), ("turtle", [0x1f422]), ("tv", [0x1f4fa]),
   ("twelve-thirty", [0x1f567]), ("twelve_o’clock", [0x1f55b]),
   ("twisted_rightwards_arrows", [0x1f500]), ("two", [0x32, 0xfe0f, 0x20e3]),
   ("two-hump_camel", [0x1f42b]), ("two-thirty", [0x1f55d]), ("two_hearts", [0x1f495]),
   ("two_men_holding_hands", [0x1f46c]), ("two_o’clock", [0x1f551]),
   ("two_women_holding_hands", [0x1f46d]), ("u5272", [0x1f239]), ("u5408", [0x1f234]),
   ("u55b6", [0x1f23a]), ("u6307", [0x1f22f]), ("u6708", [0x1f237]), ("u6709", [0x1f236]),
   ("u6e80", [0x1f235]), ("u7121", [0x1f21a]), ("u7533", [0x1f238]), ("u7981", [0x1f232]),
   ("u7a7a", [0x1f233]), ("umbrella", [0x2602]), ("umbrella_on_ground", [0x26f1]),
   ("umbrella_with_rain_drops", [0x2614]), ("unamused", [0x1f612]), ("unamused_face", [0x1f612]),
   ("underage", [0x1f51e]), ("unicorn_face", [0x1f984]), ("unlock", [0x1f513]),
   ("unlocked", [0x1f513]), ("up", [0x1f199]), ("up!_button", [0x1f199]),
   ("up-down_arrow", [0x2195]), ("up-left_arrow", [0x2196]), ("up-right_arrow", [0x2197]),
   ("up_arrow", [0x2b06]), ("upside-down_face", [0x1f643]), ("upside__down_face", [0x1f643]),
   ("upwards_button", [0x1f53c]), ("v", [0x270c]), ("vampire", [0x1f9db]),
   ("vertical_traffic_light", [0x1f6a6]), ("vhs", [0x1f4fc]), ("vibration_mode", [0x1f4f3]),
   ("victory_hand", [0x270c]), ("video_camera", [0x1f4f9]), ("video_game", [0x1f3ae]),
   ("videocassette", [0x1f4fc]), ("violin", [0x1f3bb]), ("virgo", [0x264d]),
   ("volcano", [0x1f30b]), ("volleyball", [0x1f3d0]), ("vs", [0x1f19a]), ("vs_button", [0x1f19a]),
   ("vulcan_salute", [0x1f596]), ("waffle", [0x1f9c7]),
   ("wales", [0x1f3f4, 0xe0067, 0xe0062, 0xe0077, 0xe006c, 0xe0073, 0xe007f]),
   ("walking", [0x1f6b6]), ("waning_crescent_moon", [0x1f318]), ("waning_gibbous_moon", [0x1f316]),
   ("warning", [0x26a0]), ("wastebasket", [0x1f5d1]), ("watch", [0x231a]),
   ("water_buffalo", [0x1f403]), ("water_closet", [0x1f6be]), ("water_wave", [0x1f30a]),
   ("watermelon", [0x1f349]), ("wave", [0x1f44b]), ("waving_black_flag", [0x1f3f4]),
   ("waving_hand", [0x1f44b]), ("waving_white_flag", [0x1f3f3]), ("wavy_dash", [0x3030]),
   ("waxing_crescent_moon", [0x1f312]), ("waxing_gibbous_moon", [0x1f314]), ("wc", [0x1f6be]),
   ("weary", [0x1f629]), ("weary_cat_face", [0x1f640]), ("weary_face", [0x1f629]),
   ("wedding", [0x1f492]), ("weight_lifter", [0x1f3cb]), ("whale", [0x1f433]),
   ("whale2", [0x1f40b]), ("wheel_of_dharma", [0x2638]), ("wheelchair", [0x267f]),
   ("wheelchair_symbol", [0x267f]), ("white-haired_man", [0x1f468, 0x200d, 0x1f9b3]),
   ("white-haired_woman", [0x1f469, 0x200d, 0x1f9b3]), ("white_check_mark", [0x2705]),
   ("white_circle", [0x26aa]), ("white_exclamation_mark", [0x2755]), ("white_flag", [0x1f3f3]),
   ("white_flower", [0x1f4ae]), ("white_frowning_face", [0x2639]), ("white_hair", [0x1f9b3]),
   ("white_heart", [0x1f90d]), ("white_heavy_check_mark", [0x2705]),
   ("white_large_square", [0x2b1c]), ("white_medium-small_square", [0x25fd]),
   ("white_medium_small_square", [0x25fd]), ("white_medium_square", [0x25fb]),
   ("white_medium_star", [0x2b50]), ("white_question_mark", [0x2754]),
   ("white_small_square", [0x25ab]), ("white_square_button", [0x1f533]),
   ("white_sun_behind_cloud", [0x1f325]), ("white_sun_behind_cloud_with_rain", [0x1f326]),
   ("white_sun_with_small_cloud", [0x1f324]), ("wilted_flower", [0x1f940]),
   ("wind_blowing_face", [0x1f32c]), ("wind_chime", [0x1f390]), ("wind_face", [0x1f32c]),
   ("wine_glass", [0x1f377]), ("wink", [0x1f609]), ("winking_face", [0x1f609]),
   ("winking_face_with_tongue", [0x1f61c]), ("wolf", [0x1f43a]), ("wolf_face", [0x1f43a]),
   ("woman", [0x1f469]), ("woman_artist", [0x1f469, 0x200d, 0x1f3a8]),
   ("woman_astronaut", [0x1f469, 0x200d, 0x1f680]),
   ("woman_biking", [0x1f6b4, 0x200d, 0x2640, 0xfe0f]),
   ("woman_bouncing_ball", [0x26f9, 0xfe0f, 0x200d, 0x2640, 0xfe0f]),
   ("woman_bowing", [0x1f647, 0x200d, 0x2640, 0xfe0f]),
   ("woman_cartwheeling", [0x1f938, 0x200d, 0x2640, 0xfe0f]),
   ("woman_climbing", [0x1f9d7, 0x200d, 0x2640, 0xfe0f]),
   ("woman_construction_worker", [0x1f477, 0x200d, 0x2640, 0xfe0f]),
   ("woman_cook", [0x1f469, 0x200d, 0x1f373]), ("woman_dancing", [0x1f483]),
   ("woman_detective", [0x1f575, 0xfe0f, 0x200d, 0x2640, 0xfe0f]),
   ("woman_elf", [0x1f9dd, 0x200d, 0x2640, 0xfe0f]),
   ("woman_facepalming", [0x1f926, 0x200d, 0x2640, 0xfe0f]),
   ("woman_factory_worker", [0x1f469, 0x200d, 0x1f3ed]),
   ("woman_fairy", [0x1f9da, 0x200d, 0x2640, 0xfe0f]),
   ("woman_farmer", [0x1f469, 0x200d, 0x1f33e]), ("woman_firefighter", [0x1f469, 0x200d, 0x1f692]),
   ("woman_frowning", [0x1f64d, 0x200d, 0x2640, 0xfe0f]),
   ("woman_genie", [0x1f9de, 0x200d, 0x2640, 0xfe0f]),
   ("woman_gesturing_no", [0x1f645, 0x200d, 0x2640, 0xfe0f]),
   ("woman_gesturing_ok", [0x1f646, 0x200d, 0x2640, 0xfe0f]),
   ("woman_getting_haircut", [0x1f487, 0x200d, 0x2640, 0xfe0f]),
   ("woman_getting_massage", [0x1f486, 0x200d, 0x2640, 0xfe0f]),
   ("woman_golfing", [0x1f3cc, 0xfe0f, 0x200d, 0x2640, 0xfe0f]),
   ("woman_guard", [0x1f482, 0x200d, 0x2640, 0xfe0f]),
   ("woman_health_worker", [0x1f469, 0x200d, 0x2695, 0xfe0f]),
   ("woman_in_lotus_position", [0x1f9d8, 0x200d, 0x2640, 0xfe0f]),
   ("woman_in_manual_wheelchair", [0x1f469, 0x200d, 0x1f9bd]),
   ("woman_in_motorized_wheelchair", [0x1f469, 0x200d, 0x1f9bc]),
   ("woman_in_steamy_room", [0x1f9d6, 0x200d, 0x2640, 0xfe0f]),
   ("woman_judge", [0x1f469, 0x200d, 0x2696, 0xfe0f]),
   ("woman_juggling", [0x1f939, 0x200d, 0x2640, 0xfe0f]),
   ("woman_lifting_weights", [0x1f3cb, 0xfe0f, 0x200d, 0x2640, 0xfe0f]),
   ("woman_mage", [0x1f9d9, 0x200d, 0x2640, 0xfe0f]),
   ("woman_mechanic", [0x1f469, 0x200d, 0x1f527]),
   ("woman_mountain_biking", [0x1f6b5, 0x200d, 0x2640, 0xfe0f]),
   ("woman_office_worker", [0x1f469, 0x200d, 0x1f4bc]),
   ("woman_pilot", [0x1f469, 0x200d, 0x2708, 0xfe0f]),
   ("woman_playing_handball", [0x1f93e, 0x200d, 0x2640, 0xfe0f]),
   ("woman_playing_water_polo", [0x1f93d, 0x200d, 0x2640, 0xfe0f]),
   ("woman_police_officer", [0x1f46e, 0x200d, 0x2640, 0xfe0f]),
   ("woman_pouting", [0x1f64e, 0x200d, 0x2640, 0xfe0f]),
   ("woman_raising_hand", [0x1f64b, 0x200d, 0x2640, 0xfe0f]),
   ("woman_rowing_boat", [0x1f6a3, 0x200d, 0x2640, 0xfe0f]),
   ("woman_running", [0x1f3c3, 0x200d, 0x2640, 0xfe0f]),
   ("woman_scientist", [0x1f469, 0x200d, 0x1f52c]),
   ("woman_shrugging", [0x1f937, 0x200d, 0x2640, 0xfe0f]),
   ("woman_singer", [0x1f469, 0x200d, 0x1f3a4]), ("woman_student", [0x1f469, 0x200d, 0x1f393]),
   ("woman_surfing", [0x1f3c4, 0x200d, 0x2640, 0xfe0f]),
   ("woman_swimming", [0x1f3ca, 0x200d, 0x2640, 0xfe0f]),
   ("woman_teacher", [0x1f469, 0x200d, 0x1f3eb]),
   ("woman_technologist", [0x1f469, 0x200d, 0x1f4bb]),
   ("woman_tipping_hand", [0x1f481, 0x200d, 0x2640, 0xfe0f]),
   ("woman_vampire", [0x1f9db, 0x200d, 0x2640, 0xfe0f]),
   ("woman_walking", [0x1f6b6, 0x200d, 0x2640, 0xfe0f]),
   ("woman_wearing_turban", [0x1f473, 0x200d, 0x2640, 0xfe0f]),
   ("woman_with_headscarf", [0x1f9d5]), ("woman_with_probing_cane", [0x1f469, 0x200d, 0x1f9af]),
   ("woman_zombie", [0x1f9df, 0x200d, 0x2640, 0xfe0f]), ("womans_clothes", [0x1f45a]),
   ("womans_hat", [0x1f452]), ("woman’s_boot", [0x1f462]), ("woman’s_clothes", [0x1f45a]),
   ("woman’s_hat", [0x1f452]), ("woman’s_sandal", [0x1f461]),
   ("women_with_bunny_ears", [0x1f46f, 0x200d, 0x2640, 0xfe0f]),
   ("women_wrestling", [0x1f93c, 0x200d, 0x2640, 0xfe0f]), ("womens", [0x1f6ba]),
   ("women’s_room", [0x1f6ba]), ("woozy_face", [0x1f974]), ("world_map", [0x1f5fa]),
   ("worried", [0x1f61f]), ("worried_face", [0x1f61f]), ("wrapped_gift", [0x1f381]),
   ("wrench", [0x1f527]), ("writing_hand", [0x270d]), ("x", [0x274c]), ("yarn", [0x1f9f6]),
   ("yawning_face", [0x1f971]), ("yellow_circle", [0x1f7e1]), ("yellow_heart", [0x1f49b]),
   ("yellow_square", [0x1f7e8]), ("yen", [0x1f4b4]), ("yen_banknote", [0x1f4b4]),
   ("yin_yang", [0x262f]), ("yo-yo", [0x1fa80]), ("yum", [0x1f60b]), ("zany_face", [0x1f92a]),
   ("zap", [0x26a1]), ("zebra", [0x1f993]), ("zero", [0x30, 0xfe0f, 0x20e3]),
   ("zipper-mouth_face", [0x1f910]), ("zipper__mouth_face", [0x1f910]), ("zombie", [0x1f9df]),
   ("zzz", [0x1f4a4])]

/-- All names with their code points. -/
def namedCodes : List (String × List Nat) :=
  codesToB ++ codesCToE ++ codesFToI ++ codesJToM ++ codesNToQ ++ codesRToS ++ codesTToZ

end JsxTagger.Console.Emoji
